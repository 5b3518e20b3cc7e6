import Mathlib.Data.List.Basic
/-!
# JsonText — well-formed JSON texts

The grammar of RFC 8259 over characters: a document is a list of tokens with the white space before each, whose tokens
form one value.  `spelled` writes the document with a member separator of one's choice for each member, and `text` with
the separator JSON has.
-/
namespace Graftcode
namespace JsonText

/-! ## String literals -/

def isPlain (c : Char) : Bool := c != '"' && c != '\\' && decide (0x20 ≤ c.toNat)

def isHexDigit (c : Char) : Bool :=
  c.isDigit || (decide ('a' ≤ c) && decide (c ≤ 'f')) || (decide ('A' ≤ c) && decide (c ≤ 'F'))

abbrev HexDigit := { c : Char // isHexDigit c = true }

inductive Escape where
  | quote
  | backslash
  | slash
  | backspace
  | formFeed
  | lineFeed
  | carriageReturn
  | tab
  deriving DecidableEq

def Escape.char : Escape → Char
  | quote          => '"'
  | backslash      => '\\'
  | slash          => '/'
  | backspace      => 'b'
  | formFeed       => 'f'
  | lineFeed       => 'n'
  | carriageReturn => 'r'
  | tab            => 't'

inductive Element where
  | plain (c : Char) (h : isPlain c = true)
  | escape (e : Escape)
  | unicode (a b c d : HexDigit)
  deriving DecidableEq

def Element.chars : Element → List Char
  | plain c _       => [c]
  | escape e        => ['\\', e.char]
  | unicode a b c d => ['\\', 'u', a, b, c, d]

/-- What stands between the quotes. -/
abbrev Literal := List Element

def Literal.body (lit : Literal) : List Char := lit.flatMap Element.chars

def Literal.chars (lit : Literal) : List Char := '"' :: lit.body ++ ['"']

/-- The closing quote stands behind an escaped backslash. -/
def Literal.endsInBackslash (lit : Literal) : Bool := lit.getLast? == some (.escape .backslash)

/-! ## Numbers -/

abbrev Digits := { ds : List (Fin 10) // ds ≠ [] }

def digitChar (d : Fin 10) : Char := Char.ofNat (48 + d)

inductive IntPart where
  | zero
  | positive (first : Fin 9) (rest : List (Fin 10))

def IntPart.chars : IntPart → List Char
  | zero                => ['0']
  | positive first rest => digitChar first.succ :: rest.map digitChar

structure Exponent where
  mark   : Bool
  sign   : Option Bool
  digits : Digits

def Exponent.chars (e : Exponent) : List Char :=
  (if e.mark then 'E' else 'e') ::
    (match e.sign with | none => [] | some true => ['-'] | some false => ['+']) ++ e.digits.1.map digitChar

structure Number where
  minus    : Bool
  int      : IntPart
  fraction : Option Digits
  exponent : Option Exponent

def Number.chars (n : Number) : List Char :=
  (if n.minus then ['-'] else []) ++ n.int.chars ++
    (match n.fraction with | none => [] | some ds => '.' :: ds.1.map digitChar) ++
    (match n.exponent with | none => [] | some e => e.chars)

/-! ## Tokens and documents -/

inductive Token where
  | null
  | true
  | false
  | number (n : Number)
  | string (lit : Literal)
  | beginArray
  | endArray
  | beginObject
  | endObject
  | comma
  | colon

def Token.chars : Token → List Char
  | null        => ['n', 'u', 'l', 'l']
  | true        => ['t', 'r', 'u', 'e']
  | false       => ['f', 'a', 'l', 's', 'e']
  | number n    => n.chars
  | string lit  => lit.chars
  | beginArray  => ['[']
  | endArray    => [']']
  | beginObject => ['{']
  | endObject   => ['}']
  | comma       => [',']
  | colon       => [':']

def Token.isScalar : Token → Bool
  | null | true | false | number _ | string _ => Bool.true
  | _ => Bool.false

mutual

inductive IsValue : List Token → Prop where
  | scalar (t : Token) : t.isScalar = true → IsValue [t]
  | emptyArray : IsValue [.beginArray, .endArray]
  | array (ts : List Token) : IsElements ts → IsValue (.beginArray :: ts ++ [.endArray])
  | emptyObject : IsValue [.beginObject, .endObject]
  | object (ts : List Token) : IsMembers ts → IsValue (.beginObject :: ts ++ [.endObject])

inductive IsElements : List Token → Prop where
  | last (ts : List Token) : IsValue ts → IsElements ts
  | more (ts us : List Token) : IsValue ts → IsElements us → IsElements (ts ++ .comma :: us)

inductive IsMembers : List Token → Prop where
  | last (key : Literal) (ts : List Token) : IsValue ts → IsMembers (.string key :: .colon :: ts)
  | more (key : Literal) (ts us : List Token) : IsValue ts → IsMembers us →
      IsMembers (.string key :: .colon :: ts ++ .comma :: us)

end

def isSpace (c : Char) : Bool := c == ' ' || c == '\t' || c == '\n' || c == '\r'

abbrev Space := List { c : Char // isSpace c = true }

def Space.chars (ws : Space) : List Char := ws.map Subtype.val

/-- The text of a token list when the `n`th member separator is written `separator n`. -/
def spell (separator : Nat → Char) : Nat → List (Space × Token) → List Char
  | _, []                  => []
  | n, (ws, .colon) :: ts  => ws.chars ++ separator n :: spell separator (n + 1) ts
  | n, (ws, t) :: ts       => ws.chars ++ (t.chars ++ spell separator n ts)

structure Document where
  spaced     : List (Space × Token)
  trailing   : Space
  wellFormed : IsValue (spaced.map Prod.snd)

def Document.tokens (d : Document) : List Token := d.spaced.map Prod.snd

def Document.spelled (d : Document) (separator : Nat → Char) : List Char :=
  spell separator 0 d.spaced ++ d.trailing.chars

def Document.text (d : Document) : List Char := d.spelled fun _ => ':'

/-! ## Characters outside string literals -/

def isBare (c : Char) : Bool :=
  c.isAlphanum || isSpace c || ['+', '-', '.', '[', ']', '{', '}', ',', ':'].contains c

theorem bare_digitChar (d : Fin 10) : isBare (digitChar d) = true := by
  revert d
  decide

theorem bare_space (ws : Space) : ∀ c ∈ ws.chars, isBare c = true := by
  intro c hc
  obtain ⟨⟨x, hx⟩, -, rfl⟩ := List.mem_map.1 hc
  simp [isBare, hx]

theorem bare_alphanum {c : Char} (h : c.isAlphanum = true) : isBare c = true := by
  rw [isBare, h]
  rfl

theorem bare_hexDigit (x : HexDigit) : isBare x.1 = true := by
  obtain ⟨c, hc⟩ := x
  have hz : ('f' : Char) ≤ 'z' := by decide
  have hZ : ('F' : Char) ≤ 'Z' := by decide
  simp only [isHexDigit, Bool.or_eq_true, Bool.and_eq_true, decide_eq_true_eq] at hc
  apply bare_alphanum
  rcases hc with (hc | ⟨h1, h2⟩) | ⟨h1, h2⟩
  · exact Bool.or_eq_true_iff.2 (Or.inr hc)
  · have hlower : c.isLower = true := Bool.and_eq_true_iff.2
      ⟨decide_eq_true (Char.le_def.1 h1), decide_eq_true (Char.le_def.1 (Char.le_trans h2 hz))⟩
    exact Bool.or_eq_true_iff.2 (Or.inl (Bool.or_eq_true_iff.2 (Or.inr hlower)))
  · have hupper : c.isUpper = true :=
      decide_eq_true ⟨Char.le_def.1 h1, Char.le_def.1 (Char.le_trans h2 hZ)⟩
    exact Bool.or_eq_true_iff.2 (Or.inl (Bool.or_eq_true_iff.2 (Or.inl hupper)))

/-- What holds of the characters of numbers holds of those of each number. -/
theorem forall_number {P : Char → Prop} (hdigit : ∀ d, P (digitChar d)) (hsign : ∀ c ∈ ['-', '+', '.', 'e', 'E'], P c)
    (n : Number) : ∀ c ∈ n.chars, P c := by
  have hds : ∀ ds : List (Fin 10), ∀ c ∈ ds.map digitChar, P c := by
    intro ds c hc
    obtain ⟨d, -, rfl⟩ := List.mem_map.1 hc
    exact hdigit d
  intro c hc
  simp only [Number.chars, List.mem_append] at hc
  rcases hc with ((hc | hc) | hc) | hc
  · split at hc
    · rw [List.mem_singleton.1 hc]
      exact hsign '-' (by decide)
    · cases hc
  · cases hi : n.int with
    | zero =>
      rw [hi] at hc
      exact hds [0] c hc
    | positive first rest =>
      rw [hi] at hc
      exact hds (first.succ :: rest) c hc
  · split at hc
    · cases hc
    · rcases List.mem_cons.1 hc with rfl | hc
      · exact hsign '.' (by decide)
      · exact hds _ c hc
  · split at hc
    · cases hc
    · rename_i e _
      simp only [Exponent.chars, List.cons_append, List.mem_cons, List.mem_append] at hc
      rcases hc with rfl | hc | hc
      · apply hsign
        split <;> decide
      · apply hsign
        split at hc
        · cases hc
        · rw [List.mem_singleton.1 hc]; decide
        · rw [List.mem_singleton.1 hc]; decide
      · exact hds _ c hc

theorem bare_number (n : Number) : ∀ c ∈ n.chars, isBare c = true :=
  forall_number bare_digitChar (List.all_eq_true.1 rfl) n

/-- A number has a digit. -/
theorem exists_digit (n : Number) : ∃ d, digitChar d ∈ n.chars := by
  cases hi : n.int with
  | zero =>
    refine ⟨0, ?_⟩
    simp only [Number.chars, hi, IntPart.chars, List.mem_append]
    exact Or.inl (Or.inl (Or.inr (by decide)))
  | positive first rest =>
    refine ⟨first.succ, ?_⟩
    simp only [Number.chars, hi, IntPart.chars, List.mem_append]
    exact Or.inl (Or.inl (Or.inr List.mem_cons_self))

theorem bare_token {t : Token} (hs : ∀ lit, t ≠ .string lit) : ∀ c ∈ t.chars, isBare c = true := by
  cases t with
  | number n => exact bare_number n
  | string lit => exact absurd rfl (hs lit)
  | _ => exact List.all_eq_true.1 rfl

end JsonText
end Graftcode
