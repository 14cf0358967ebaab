import Kro.Parser.Parser

namespace Kro

theorem dropWhile_reverse_of_getLast {p : Char → Bool} {l : List Char}
    (h : ∀ c ∈ l.getLast?, p c = false) : l.reverse.dropWhile p = l.reverse := by
  cases l using List.reverseRecOn with
  | nil => rfl
  | append_singleton l c =>
    simp at h
    simp [h]

-- Trimming the delimiters off `${e}` gives back `e` when `e` neither starts nor ends with a rune
-- of the cutset.
theorem Go.trim_delimited {e : String} (hh : ∀ c ∈ e.toList.head?, c ∉ ['$', '\x7b', '\x7d'])
    (hl : ∀ c ∈ e.toList.getLast?, c ∉ ['$', '\x7b', '\x7d']) :
    Go.trim ("$\x7b" ++ e ++ "\x7d") "$\x7b\x7d" = e := by
  obtain ⟨l⟩ := e
  show String.mk (((('$' :: '\x7b' :: (l ++ ['\x7d'])).dropWhile _).reverse.dropWhile _).reverse) = _
  cases l with
  | nil => rfl
  | cons c cs =>
    simp at hh
    simp [hh]
    rw [← List.reverse_cons, dropWhile_reverse_of_getLast (by simpa using hl), List.reverse_reverse]

theorem parseString_standalone {e : String} (schema : ValidatedSchema) (path expectedType : String)
    (hs : isStandaloneExpression ("$\x7b" ++ e ++ "\x7d") = .ok true)
    (hh : ∀ c ∈ e.toList.head?, c ∉ ['$', '\x7b', '\x7d'])
    (hl : ∀ c ∈ e.toList.getLast?, c ∉ ['$', '\x7b', '\x7d']) :
    parseString ("$\x7b" ++ e ++ "\x7d") schema path expectedType =
      .ok [⟨path, [e], expectedType, some schema.schema, true⟩] := by
  rw [parseString, parseStringOf, hs, Go.trim_delimited hh hl]
  rfl

-- The port of a database, read into an integer field.
theorem parseString_standalone_port :
    isStandaloneExpression ("$\x7b" ++ "db.status.port" ++ "\x7d") = .ok true ∧
    parseString ("$\x7b" ++ "db.status.port" ++ "\x7d")
        ⟨⟨["integer"], [], [], none, none, []⟩, "integer", rfl⟩ "spec.port" "integer" =
      .ok [⟨"spec.port", ["db.status.port"], "integer",
        some ⟨["integer"], [], [], none, none, []⟩, true⟩] :=
  ⟨rfl, parseString_standalone _ _ _ rfl (by decide) (by decide)⟩

-- `strings.Trim` takes off every leading and trailing `$`, `{` and `}`, not only the delimiters:
-- the empty map literal loses its braces, and a body starting with `$` loses that rune.
theorem parseString_standalone_map_literal (schema : ValidatedSchema) (path expectedType : String) :
    extractExpressions "$\x7b\x7b\x7d\x7d" = .ok ["\x7b\x7d"] ∧
    isStandaloneExpression "$\x7b\x7b\x7d\x7d" = .ok true ∧
    parseString "$\x7b\x7b\x7d\x7d" schema path expectedType =
      .ok [⟨path, [""], expectedType, some schema.schema, true⟩] ∧
    isStandaloneExpression "$\x7b$x\x7d" = .ok true ∧
    parseString "$\x7b$x\x7d" schema path expectedType =
      .ok [⟨path, ["x"], expectedType, some schema.schema, true⟩] :=
  ⟨rfl, rfl, rfl, rfl, rfl⟩

end Kro
