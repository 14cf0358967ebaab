import Kro.Parser.Document
import Kro.Parser.Unicode

namespace Kro

namespace Go

-- `strings.Trim(s, cutset)`: drops every leading and every trailing rune that is in `cutset`.
def trim (s cutset : String) : String :=
  let cut := (cutset.toList.contains ·)
  String.mk ((s.toList.dropWhile cut).reverse.dropWhile cut).reverse

-- `strconv.IsPrint`, which is `unicode.IsPrint`.
def isPrint (c : Char) : Bool :=
  let r := c.toNat
  if r ≤ 0xff then
    if 0x20 ≤ r && r ≤ 0x7e then true
    else if 0xa1 ≤ r && r ≤ 0xff then r != 0xad
    else false
  else printRanges.any fun (lo, hi) => lo ≤ r && r ≤ hi

def lowerhex (n : Nat) : Char :=
  if n < 10 then Char.ofNat (0x30 + n) else Char.ofNat (0x57 + n)

-- `lowerhex[r>>uint(s)&0xF]` for `s` from `4 * (n - 1)` down to `0`.
def hexDigits (n r : Nat) : List Char :=
  (List.range n).reverse.map fun i => lowerhex (r >>> (4 * i) &&& 0xf)

-- `appendEscapedRune` of `strconv`, for a double-quoted literal. A `Char` is a valid rune, so the
-- branch that replaces an invalid one by U+FFFD is not taken.
def quoteRune (c : Char) : List Char :=
  if c = '"' || c = '\\' then ['\\', c]
  else if isPrint c then [c]
  else match c with
    | '\x07' => ['\\', 'a']
    | '\x08' => ['\\', 'b']
    | '\x0c' => ['\\', 'f']
    | '\n'   => ['\\', 'n']
    | '\r'   => ['\\', 'r']
    | '\t'   => ['\\', 't']
    | '\x0b' => ['\\', 'v']
    | _      =>
      if c.toNat < 0x20 || c.toNat = 0x7f then ['\\', 'x', lowerhex (c.toNat / 16), lowerhex (c.toNat % 16)]
      else if c.toNat < 0x10000 then '\\' :: 'u' :: hexDigits 4 c.toNat
      else '\\' :: 'U' :: hexDigits 8 c.toNat

-- `strconv.Quote(s)`, which is what the verb `%q` prints for a string.
def quote (s : String) : String :=
  String.mk ('"' :: s.toList.flatMap quoteRune ++ ['"'])

end Go

/-- Modelled from the spec: the scanner behind `extractExpressions` (parser package, not
under src/). Outside an expression it looks for `${`; inside one it counts nested braces,
and the brace that balances the opening one ends the expression. A `${` that is never
closed is a malformed delimiter and an error. -/
def extractExpressions.scan : Option (Nat × List Char) → List Char → Except ParseError (List String)
  | none, [] => .ok []
  | none, '$' :: '\x7b' :: cs => scan (some (0, [])) cs
  | none, _ :: cs => scan none cs
  | some _, [] => .error .unclosedExpression
  | some (depth, body), c :: cs =>
    if c = '\x7d' then
      if depth = 0 then (String.mk body.reverse :: ·) <$> scan none cs
      else scan (some (depth - 1, c :: body)) cs
    else if c = '\x7b' then scan (some (depth + 1, c :: body)) cs
    else scan (some (depth, c :: body)) cs

/-- Modelled from the spec: the bodies of the embedded `${…}` expressions of a string, in
order; an error for malformed delimiters. -/
def extractExpressions (s : String) : Except ParseError (List String) :=
  extractExpressions.scan none s.toList

/-- Modelled from the spec: a string is a standalone expression when the entire string is
a single `${…}`, that is `extractExpressions` finds one body `e` and the string is `${e}`. -/
def isStandaloneExpression (s : String) : Except ParseError Bool := do
  match ← extractExpressions s with
  | [e] => pure (s = "$\x7b" ++ e ++ "\x7d")
  | _   => pure false

-- A string with no `$\x7b` holds no expression.
theorem extractExpressions.scan_of_not_infix :
    ∀ cs : List Char, ¬ ['$', '\x7b'] <:+: cs → extractExpressions.scan none cs = .ok []
  | [] => fun _ => rfl
  | c :: cs => fun h => by
    rw [extractExpressions.scan]
    · exact scan_of_not_infix cs fun h' => h (h'.trans (List.suffix_cons c _).isInfix)
    · rintro cs' rfl rfl
      exact h (List.prefix_append _ _).isInfix

theorem extractExpressions_of_not_infix {s : String} (h : ¬ ['$', '\x7b'] <:+: s.toList) :
    extractExpressions s = .ok [] :=
  extractExpressions.scan_of_not_infix _ h

theorem isStandaloneExpression_of_not_infix {s : String} (h : ¬ ['$', '\x7b'] <:+: s.toList) :
    isStandaloneExpression s = .ok false := by
  rw [isStandaloneExpression, extractExpressions_of_not_infix h]
  rfl

end Kro
