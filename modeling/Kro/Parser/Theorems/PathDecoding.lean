import Mathlib.Tactic.Ring
import Kro.Parser.Path

namespace Kro

-- Reading a path back. `joinPathAndFieldName` quotes a name that is empty or holds a dot
-- "to avoid ambiguity and simplify parsing back the path"; the reader below is the inverse
-- the encoding promises, and the theorems say on which locations it is one.

namespace Go

-- The value of a hex digit as `lowerhex` writes it.
def unhex (c : Char) : Nat :=
  if c.toNat < 0x3a then c.toNat - 0x30 else c.toNat - 0x57

-- The rune a one-letter escape of `quoteRune` stands for.
def unescape (c : Char) : Option Char :=
  if c = '"' ∨ c = '\\' then some c
  else if c = 'a' then some '\x07'
  else if c = 'b' then some '\x08'
  else if c = 'f' then some '\x0c'
  else if c = 'n' then some '\n'
  else if c = 'r' then some '\r'
  else if c = 't' then some '\t'
  else if c = 'v' then some '\x0b'
  else none

def unquote.push (c : Char) : Option (List Char × List Char) → Option (List Char × List Char) :=
  Option.map fun r => (c :: r.1, r.2)

mutual

-- `strconv.Unquote` of the body of a literal `quote` wrote, read up to its closing quote;
-- returns the runes and what follows the quote.
def unquote : List Char → Option (List Char × List Char)
  | [] => none
  | c :: cs =>
    if c = '"' then some ([], cs)
    else if c = '\\' then unquote.escape cs
    else unquote.push c (unquote cs)

-- What follows a backslash: `x`, `u` or `U` and two, four or eight hex digits, or one letter.
def unquote.escape : List Char → Option (List Char × List Char)
  | [] => none
  | e :: cs =>
    if e = 'x' then unquote.hex 2 0 cs
    else if e = 'u' then unquote.hex 4 0 cs
    else if e = 'U' then unquote.hex 8 0 cs
    else (unescape e).bind fun c => unquote.push c (unquote cs)

-- The `n` hex digits an escape still has, `v` the value of those read, as `UnquoteChar` reads them.
def unquote.hex : Nat → Nat → List Char → Option (List Char × List Char)
  | _, _, [] => none
  | 0, _, _ :: _ => none
  | 1, v, d :: cs => unquote.push (Char.ofNat (16 * v + unhex d)) (unquote cs)
  | n + 2, v, d :: cs => unquote.hex (n + 1) (16 * v + unhex d) cs

end

theorem unhex_lowerhex : ∀ n, n < 16 → unhex (lowerhex n) = n
  | 0, _ | 1, _ | 2, _ | 3, _ | 4, _ | 5, _ | 6, _ | 7, _ | 8, _ | 9, _ | 10, _ | 11, _ | 12, _
  | 13, _ | 14, _ | 15, _ => by decide
  | _ + 16, h => absurd h (by omega)

theorem hexDigit_eq (r i : Nat) : r >>> (4 * i) &&& 0xf = r / 16 ^ i % 16 := by
  rw [Nat.shiftRight_eq_div_pow, show (0xf : Nat) = 2 ^ 4 - 1 from rfl, Nat.and_pow_two_sub_one_eq_mod, Nat.pow_mul]

theorem hexDigits_succ (n r : Nat) : hexDigits (n + 1) r = lowerhex (r / 16 ^ n % 16) :: hexDigits n r := by
  simp [hexDigits, List.range_succ, hexDigit_eq]

-- The digits `appendEscapedRune` writes are read back as the rune's value modulo their count.
theorem unquote_hex_hexDigits (r : Nat) (rest : List Char) : ∀ n v,
    unquote.hex (n + 1) v (hexDigits (n + 1) r ++ rest) =
      unquote.push (Char.ofNat (v * 16 ^ (n + 1) + r % 16 ^ (n + 1))) (unquote rest)
  | 0, v => by
    rw [hexDigits_succ, List.cons_append, unquote.hex, unhex_lowerhex _ (Nat.mod_lt _ (by omega))]
    simp [hexDigits, Nat.mul_comm]
  | n + 1, v => by
    rw [hexDigits_succ, List.cons_append, unquote.hex, unquote_hex_hexDigits r rest n,
      unhex_lowerhex _ (Nat.mod_lt _ (by omega)), Nat.mod_pow_succ (k := n + 1)]
    congr 2
    ring

theorem unquote_cons_of_ne {c : Char} {cs : List Char} (h1 : c ≠ '"') (h2 : c ≠ '\\') :
    unquote (c :: cs) = unquote.push c (unquote cs) := by
  rw [unquote, if_neg h1, if_neg h2]

-- An escape of `n + 1` hex digits holding the whole of the rune reads back as the rune.
theorem unquote_hexEscape {c e : Char} {n : Nat} (rest : List Char)
    (he : unquote.escape (e :: hexDigits (n + 1) c.toNat ++ rest) =
      unquote.hex (n + 1) 0 (hexDigits (n + 1) c.toNat ++ rest))
    (hc : c.toNat < 16 ^ (n + 1)) :
    unquote ('\\' :: e :: hexDigits (n + 1) c.toNat ++ rest) = unquote.push c (unquote rest) := by
  rw [List.cons_append, unquote, if_neg (by decide), if_pos rfl, he, unquote_hex_hexDigits, Nat.zero_mul,
    Nat.zero_add, Nat.mod_eq_of_lt hc, Char.ofNat_toNat]

theorem unquote_quoteRune (c : Char) (rest : List Char) :
    unquote (quoteRune c ++ rest) = unquote.push c (unquote rest) := by
  unfold quoteRune
  split
  · next h =>
    simp only [Bool.or_eq_true, decide_eq_true_eq] at h
    rcases h with rfl | rfl <;> rfl
  · next hq =>
    simp only [Bool.or_eq_true, decide_eq_true_eq, not_or] at hq
    split
    · exact unquote_cons_of_ne hq.1 hq.2
    · split
      case h_8 =>
        split_ifs with hx hu
        · have hc : c.toNat < 16 ^ 2 := by simp only [Bool.or_eq_true, decide_eq_true_eq] at hx; omega
          have hd : [lowerhex (c.toNat / 16), lowerhex (c.toNat % 16)] = hexDigits 2 c.toNat := by
            rw [hexDigits_succ, hexDigits_succ, Nat.pow_one, Nat.pow_zero, Nat.div_one,
              Nat.mod_eq_of_lt (Nat.div_lt_of_lt_mul hc)]
            rfl
          rw [hd]
          exact unquote_hexEscape rest rfl hc
        · exact unquote_hexEscape rest rfl hu
        · exact unquote_hexEscape rest rfl c.val.val.isLt
      all_goals rfl

theorem unquote_quote_body (rest : List Char) :
    ∀ s : List Char, unquote (s.flatMap quoteRune ++ '"' :: rest) = some (s, rest)
  | [] => by rw [unquote.eq_def]; rfl
  | c :: s => by
    rw [List.flatMap_cons, List.append_assoc, unquote_quoteRune, unquote_quote_body rest s]
    rfl

end Go

-- The value of a run of decimal digits.
def digitsValue (ds : List Char) : Nat :=
  ds.foldl (fun n d => 10 * n + (d.toNat - 0x30)) 0

theorem digitChar_spec : ∀ d, d < 10 → (Nat.digitChar d).isDigit ∧ (Nat.digitChar d).toNat - 0x30 = d
  | 0, _ | 1, _ | 2, _ | 3, _ | 4, _ | 5, _ | 6, _ | 7, _ | 8, _ | 9, _ => by decide
  | _ + 10, h => absurd h (by omega)

-- `toDigitsCore` puts the digits of `n` in front of `ds`, given fuel past `n`.
theorem toDigitsCore_spec : ∀ (f n : Nat) (ds : List Char), n < f →
    ∃ ns, Nat.toDigitsCore 10 f n ds = ns ++ ds ∧ ns ≠ [] ∧ (∀ c ∈ ns, c.isDigit) ∧ digitsValue ns = n
  | 0, _, _, h => absurd h (by omega)
  | f + 1, n, ds, h => by
    have hd := digitChar_spec (n % 10) (Nat.mod_lt _ (by omega))
    have hstep : Nat.toDigitsCore 10 (f + 1) n ds =
        if n / 10 = 0 then Nat.digitChar (n % 10) :: ds
        else Nat.toDigitsCore 10 f (n / 10) (Nat.digitChar (n % 10) :: ds) := rfl
    rw [hstep]
    split
    · next h0 =>
      refine ⟨[Nat.digitChar (n % 10)], rfl, List.cons_ne_nil _ _,
        fun c hc => List.mem_singleton.mp hc ▸ hd.1, ?_⟩
      show 10 * 0 + ((n % 10).digitChar.toNat - 0x30) = n
      omega
    · obtain ⟨ns, he, hne, hdig, hval⟩ := toDigitsCore_spec f (n / 10) _ (by omega)
      refine ⟨ns ++ [Nat.digitChar (n % 10)], by rw [he, List.append_assoc, List.singleton_append],
        List.append_ne_nil_of_right_ne_nil _ (List.cons_ne_nil _ _), fun c hc => ?_, ?_⟩
      · rcases List.mem_append.mp hc with hc | hc
        · exact hdig c hc
        · exact List.mem_singleton.mp hc ▸ hd.1
      · rw [digitsValue, List.foldl_append]
        show 10 * digitsValue ns + ((n % 10).digitChar.toNat - 0x30) = n
        omega

theorem toDigits_spec (n : Nat) :
    ∃ d ds, Nat.toDigits 10 n = d :: ds ∧ (∀ c ∈ d :: ds, c.isDigit) ∧ digitsValue (d :: ds) = n := by
  obtain ⟨ns, he, hne, hdig, hval⟩ := toDigitsCore_spec (n + 1) n [] (by omega)
  obtain ⟨d, ds, rfl⟩ := List.exists_cons_of_ne_nil hne
  refine ⟨d, ds, ?_, hdig, hval⟩
  show Nat.toDigitsCore 10 (n + 1) n [] = _
  rw [he, List.append_nil]

-- The reader of what follows `[`: a quoted name or an index.
def readBracket : List Char → Option (PathStep × List Char)
  | [] => none
  | c :: cs =>
    if c = '"' then
      match Go.unquote cs with
      | some (name, ']' :: rest) => some (.field (String.mk name), rest)
      | _ => none
    else
      match (c :: cs).span Char.isDigit with
      | (d :: ds, ']' :: rest) => some (.index (digitsValue (d :: ds)), rest)
      | _ => none

-- The reader of one step, `.name`, `["name"]` or `[i]`, with what follows it.
def readStep : List Char → Option (PathStep × List Char)
  | '.' :: cs =>
    let (name, rest) := cs.span fun c => c != '.' && c != '['
    some (.field (String.mk name), rest)
  | '[' :: cs => readBracket cs
  | _ => none

def readSteps : Nat → List Char → Option (List PathStep)
  | _, [] => some []
  | 0, _ :: _ => none
  | fuel + 1, c :: cs => (readStep (c :: cs)).bind fun (s, rest) => (s :: ·) <$> readSteps fuel rest

-- A path from the root: its first step, when a bare name, comes without its dot.
def decodePath (p : String) : Option (List PathStep) :=
  match p.toList with
  | [] => some []
  | c :: cs =>
    if c = '[' then readSteps (cs.length + 1) (c :: cs)
    else readSteps (cs.length + 2) ('.' :: c :: cs)

-- The runes `PathStep.append` adds to a non-empty path.
def PathStep.code : PathStep → List Char
  | .field name =>
    if name = "" || name.toList.contains '.' then '[' :: (Go.quote name).toList ++ [']']
    else '.' :: name.toList
  | .index i => '[' :: (toString i).toList ++ [']']

-- A step the reader gives back: an index, a quoted name, or a bare name without `[`.
def PathStep.readable : PathStep → Bool
  | .field name => name = "" || name.toList.contains '.' || !name.toList.contains '['
  | .index _ => true

theorem PathStep.append_toList {path : String} (hp : path ≠ "") (s : PathStep) :
    (s.append path).toList = path.toList ++ s.code := by
  cases s with
  | field name =>
    simp only [PathStep.append, PathStep.code, joinPathAndFieldName]
    split
    · simp
    · simp [hp]
  | index i => simp [PathStep.append, PathStep.code, itemPath]

theorem readStep_code {s : PathStep} {rest : List Char} (hs : s.readable)
    (hr : ∀ c ∈ rest.head?, c = '.' ∨ c = '[') : readStep (s.code ++ rest) = some (s, rest) := by
  cases s with
  | field name =>
    simp only [PathStep.code]
    split
    · have hq : (Go.quote name).toList = '"' :: name.toList.flatMap Go.quoteRune ++ ['"'] := rfl
      simp only [hq, List.cons_append, List.append_assoc, List.singleton_append]
      rw [readStep.eq_2, readBracket, if_pos rfl, Go.unquote_quote_body]
      rfl
    · next hb =>
      simp only [PathStep.readable, hb, Bool.false_or, Bool.not_eq_true'] at hs
      simp only [Bool.or_eq_true, decide_eq_true_eq, not_or, Bool.not_eq_true] at hb
      simp at hs hb
      have hx : ∀ c ∈ name.toList, (c != '.' && c != '[') = true := fun c hc => by
        simp only [bne_iff_ne, ne_eq, Bool.and_eq_true, decide_eq_true_eq]
        exact ⟨fun h => hb.2 (h ▸ hc), fun h => hs (h ▸ hc)⟩
      have hr' : ∀ c ∈ rest.head?, (c != '.' && c != '[') = false := fun c hc => by
        rcases hr c hc with rfl | rfl <;> rfl
      rw [List.cons_append, readStep.eq_1, span_append_of_stop hx hr']
      rfl
  | index i =>
    obtain ⟨d, ds, he, hdig, hval⟩ := toDigits_spec i
    have hq : d ≠ '"' := fun h => by simpa [h] using hdig d (List.mem_cons_self _ _)
    simp only [PathStep.code, List.cons_append, List.append_assoc, List.singleton_append]
    rw [readStep.eq_2, show (toString i).toList = Nat.toDigits 10 i from rfl, he, List.cons_append, readBracket,
      if_neg hq, ← List.cons_append, span_append_of_stop hdig (by simp), ← hval]; rfl

theorem PathStep.code_head (s : PathStep) : ∃ c cs, s.code = c :: cs ∧ (c = '.' ∨ c = '[') := by
  cases s with
  | field name =>
    simp only [PathStep.code]
    split
    · exact ⟨_, _, rfl, .inr rfl⟩
    · exact ⟨_, _, rfl, .inl rfl⟩
  | index i => exact ⟨_, _, rfl, .inr rfl⟩

theorem codes_head (l : List PathStep) : ∀ c ∈ (l.flatMap PathStep.code).head?, c = '.' ∨ c = '[' := by
  cases l with
  | nil => nofun
  | cons s l =>
    obtain ⟨c, cs, hc, hh⟩ := s.code_head
    rw [List.flatMap_cons, hc]
    rintro _ ⟨⟩
    exact hh

theorem length_le_codes : ∀ l : List PathStep, l.length ≤ (l.flatMap PathStep.code).length
  | [] => le_rfl
  | s :: l => by
    obtain ⟨c, cs, hc, -⟩ := s.code_head
    have := length_le_codes l
    simp only [List.flatMap_cons, hc, List.length_append, List.length_cons]
    omega

theorem readSteps_codes : ∀ (l : List PathStep) (fuel : Nat), (∀ s ∈ l, s.readable) →
    l.length ≤ fuel → readSteps fuel (l.flatMap PathStep.code) = some l
  | [], fuel, _, _ => by cases fuel <;> rfl
  | s :: l, fuel + 1, hs, hf => by
    obtain ⟨c, cs, hc, -⟩ := s.code_head
    rw [List.flatMap_cons, hc, List.cons_append, readSteps, ← List.cons_append, ← hc,
      readStep_code (hs s (List.mem_cons_self _ _)) (codes_head l)]
    simp [readSteps_codes l fuel (fun s hs' => hs s (List.mem_cons_of_mem _ hs')) (by simpa using hf)]

theorem PathStep.append_ne_empty {path : String} (hp : path ≠ "") (s : PathStep) : s.append path ≠ "" :=
  fun h => by
    obtain ⟨c, cs, hc, -⟩ := s.code_head
    have := congrArg String.toList h
    rw [PathStep.append_toList hp, hc] at this
    simp at this

theorem encodePath_toList {path : String} (hp : path ≠ "") :
    ∀ l, (encodePath path l).toList = path.toList ++ l.flatMap PathStep.code
  | [] => by simp
  | s :: l => by
    rw [encodePath_cons, encodePath_toList (PathStep.append_ne_empty hp s) l, PathStep.append_toList hp,
      List.flatMap_cons, List.append_assoc]

-- The first step from the root: a bare name is written without its dot.
theorem PathStep.append_empty_toList {s : PathStep} (hs : s.readable) :
    ∃ c cs, (s.append "").toList = c :: cs ∧
      ((c = '[' ∧ s.code = c :: cs) ∨ (c ≠ '[' ∧ s.code = '.' :: c :: cs)) := by
  cases s with
  | field name =>
    simp only [PathStep.append, PathStep.code, joinPathAndFieldName]
    split
    · exact ⟨_, _, rfl, .inl ⟨rfl, rfl⟩⟩
    · next hb =>
      simp only [PathStep.readable, hb, Bool.false_or, Bool.not_eq_true'] at hs
      simp only [Bool.or_eq_true, decide_eq_true_eq, not_or, Bool.not_eq_true] at hb
      obtain ⟨c, cs, he⟩ := List.exists_cons_of_ne_nil (fun h => hb.1 (String.ext h))
      refine ⟨c, cs, he, .inr ⟨fun h => ?_, congrArg _ he⟩⟩
      simp [h ▸ he] at hs
  | index i => exact ⟨_, _, rfl, .inl ⟨rfl, rfl⟩⟩

theorem decodePath_encodePath : ∀ l : List PathStep, (∀ s ∈ l, s.readable) →
    decodePath (encodePath "" l) = some l
  | [], _ => rfl
  | s :: l, hl => by
    obtain ⟨c, cs, he, hc⟩ := PathStep.append_empty_toList (hl s (List.mem_cons_self _ _))
    have hne : s.append "" ≠ "" := fun h => by simp [h] at he
    have hlen := length_le_codes (s :: l)
    rw [decodePath, encodePath_cons, encodePath_toList hne, he, List.cons_append]
    simp only [List.flatMap_cons, List.length_cons, List.length_append] at hlen ⊢
    rcases hc with ⟨rfl, hcode⟩ | ⟨hc, hcode⟩
    · rw [if_pos rfl, ← List.cons_append, ← hcode, ← List.flatMap_cons]
      exact readSteps_codes _ _ hl (by simp [hcode] at hlen ⊢; omega)
    · rw [if_neg hc, ← List.cons_append, ← List.cons_append, ← hcode, ← List.flatMap_cons]
      exact readSteps_codes _ _ hl (by simp [hcode] at hlen ⊢; omega)

theorem encodePath_injective {l l' : List PathStep} (hl : ∀ s ∈ l, s.readable)
    (hl' : ∀ s ∈ l', s.readable) (h : encodePath "" l = encodePath "" l') : l = l' :=
  Option.some.inj ((decodePath_encodePath l hl).symm.trans (h ▸ decodePath_encodePath l' hl'))

-- What the comment on `joinPathAndFieldName` promises: the joined path reads back as the path
-- it extends and the name.
theorem joinPathAndFieldName_decodePath {l : List PathStep} {name : String}
    (hl : ∀ s ∈ l, s.readable) (hn : (PathStep.field name).readable) :
    decodePath (joinPathAndFieldName (encodePath "" l) name) = some (l ++ [.field name]) := by
  have h : ∀ s ∈ l ++ [.field name], s.readable := by
    simpa only [List.mem_append, List.mem_singleton, or_imp, forall_and, forall_eq] using ⟨hl, hn⟩
  have := decodePath_encodePath _ h
  rwa [encodePath_append] at this

-- A dotted label key under the labels of an object, and a name with a rune that `%q` escapes.
theorem joinPathAndFieldName_decodePath_label :
    (∀ s ∈ [PathStep.field "metadata", .field "labels"], s.readable) ∧
    (PathStep.field "app.kubernetes.io/name").readable ∧
    decodePath (joinPathAndFieldName (encodePath "" [.field "metadata", .field "labels"])
      "app.kubernetes.io/name") =
      some [.field "metadata", .field "labels", .field "app.kubernetes.io/name"] ∧
    (PathStep.field "x.\u00ad").readable ∧
    decodePath (joinPathAndFieldName (encodePath "" []) "x.\u00ad") = some [.field "x.\u00ad"] :=
  ⟨by decide, rfl, joinPathAndFieldName_decodePath (by decide) rfl, rfl,
    joinPathAndFieldName_decodePath nofun rfl⟩

-- The soft hyphen is not printable: `%q` writes it as a `\u` escape.
example : joinPathAndFieldName "" "x.\u00ad" = "[\"x.\\u00ad\"]" := by decide

end Kro
