import Mathlib.Algebra.Group.Even
import Mathlib.Algebra.Group.Nat.Even
import Graftcode.Cpp
import Graftcode.JsonText
/-!
# RelaxedJson — `normalizeRelaxedJson`

`RabbitMqServer.cpp` and `ServiceBusServer.cpp` have the same function: it turns every `=` outside a string literal into
`:`, telling where it is by counting quotes that do not follow a backslash.  The closing quote of a literal that ends in
an escaped backslash does follow one, and from there on the count is off by one until the next such literal.
-/
namespace Graftcode
namespace RelaxedJson

open JsonText

/-! ## The function -/

/-- The loop over the characters; `prev` is the character before, as the loop left it. -/
def normalizeFrom : Bool → Char → Text → Text
  | _, _, [] => []
  | inString, prev, c :: cs =>
    let inString := if c == '"' && prev != '\\' then !inString else inString
    let c := if !inString && c == '=' then ':' else c
    c :: normalizeFrom inString c cs

def normalizeRelaxedJson (jsonSource : Text) : Text := normalizeFrom false '\x00' jsonSource

example : normalizeRelaxedJson ['{', '"', 'a', '"', '=', '1', '}'] = ['{', '"', 'a', '"', ':', '1', '}'] := by decide

/-! ## What it does to each piece of a text -/

/-- What becomes of a character that is no quote. -/
def mend (inString : Bool) (c : Char) : Char := if !inString && c == '=' then ':' else c

theorem normalizeFrom_prev (inString : Bool) {p q : Char} (hp : p ≠ '\\') (hq : q ≠ '\\') (cs : Text) :
    normalizeFrom inString p cs = normalizeFrom inString q cs := by
  cases cs with
  | nil => rfl
  | cons c cs => simp [normalizeFrom, hp, hq]

theorem normalizeFrom_plain {c : Char} (hc : c ≠ '"') (inString : Bool) (prev : Char) (cs : Text) :
    normalizeFrom inString prev (c :: cs) = mend inString c :: normalizeFrom inString (mend inString c) cs := by
  simp [normalizeFrom, mend, hc]

theorem mend_ne_backslash {c : Char} (hc : c ≠ '\\') (inString : Bool) : mend inString c ≠ '\\' := by
  unfold mend
  split
  · decide
  · exact hc

theorem bare_ne {c : Char} (hc : isBare c = true) : c ≠ '"' ∧ c ≠ '\\' ∧ c ≠ '=' := by
  refine ⟨?_, ?_, ?_⟩ <;> rintro rfl <;> revert hc <;> decide

theorem mend_bare {c : Char} (hc : isBare c = true) (inString : Bool) : mend inString c = c := by
  simp [mend, (bare_ne hc).2.2]

theorem normalizeFrom_bare (inString : Bool) {p : Char} (hp : p ≠ '\\') (rest : Text) :
    ∀ (cs : Text), (∀ c ∈ cs, isBare c = true) →
      normalizeFrom inString p (cs ++ rest) = cs ++ normalizeFrom inString p rest
  | [], _ => rfl
  | c :: cs, h => by
    have hc := h c List.mem_cons_self
    rw [List.cons_append, normalizeFrom_plain (bare_ne hc).1, mend_bare hc,
      normalizeFrom_prev inString (bare_ne hc).2.1 hp,
      normalizeFrom_bare inString hp rest cs fun d hd => h d (List.mem_cons_of_mem _ hd), List.cons_append]

/-- The character before what follows an element: a backslash, or one that does not matter. -/
def lastOf (e : Element) : Char := if e = .escape .backslash then '\\' else ' '

theorem normalizeFrom_element (inString : Bool) (p : Char) (e : Element) (rest : Text) :
    normalizeFrom inString p (e.chars ++ rest) =
      e.chars.map (mend inString) ++ normalizeFrom inString (lastOf e) rest := by
  have hback : mend inString '\\' = '\\' := by simp [mend]
  cases e with
  | plain c h =>
    have hc := h
    simp only [isPlain, Bool.and_eq_true, bne_iff_ne, ne_eq] at hc
    simp only [Element.chars, List.cons_append, List.nil_append, List.map_cons, List.map_nil]
    rw [normalizeFrom_plain hc.1.1, normalizeFrom_prev inString (mend_ne_backslash hc.1.2 inString) (q := ' ') (by decide)]
    rfl
  | escape e =>
    simp only [Element.chars, List.cons_append, List.nil_append, List.map_cons, List.map_nil]
    rw [normalizeFrom_plain (by decide), hback]
    cases e <;> simp [normalizeFrom, mend, Escape.char, lastOf] <;>
      exact normalizeFrom_prev inString (by decide) (by decide) rest
  | unicode a b c d =>
    have hbare : ∀ x ∈ [a.1, b.1, c.1, d.1], isBare x = true := by
      simp [bare_hexDigit]
    have hmend : [a.1, b.1, c.1, d.1].map (mend inString) = [a.1, b.1, c.1, d.1] := by
      simp [mend_bare, bare_hexDigit]
    simp only [Element.chars, List.cons_append, List.nil_append, List.map_cons, List.map_nil]
    rw [normalizeFrom_plain (by decide), hback, normalizeFrom_plain (by decide), mend_bare (by decide)]
    have := normalizeFrom_bare inString (p := 'u') (by decide) rest _ hbare
    simp only [List.cons_append, List.nil_append] at this
    rw [this, normalizeFrom_prev inString (q := ' ') (by decide) (by decide)]
    simp [mend_bare, bare_hexDigit, lastOf]

def lastOfBody : Literal → Char → Char
  | [], p     => p
  | e :: es, _ => lastOfBody es (lastOf e)

theorem normalizeFrom_body (inString : Bool) (rest : Text) : ∀ (lit : Literal) (p : Char),
    normalizeFrom inString p (lit.body ++ rest) =
      lit.body.map (mend inString) ++ normalizeFrom inString (lastOfBody lit p) rest
  | [], p => rfl
  | e :: es, p => by
    have hbody : Literal.body (e :: es) = e.chars ++ Literal.body es := rfl
    rw [hbody, List.append_assoc, normalizeFrom_element, normalizeFrom_body inString rest es, List.map_append,
      List.append_assoc, lastOfBody]

theorem lastOfBody_eq_backslash {p : Char} (hp : p ≠ '\\') : ∀ (lit : Literal),
    lastOfBody lit p = '\\' ↔ lit.endsInBackslash = true
  | [] => by simp [lastOfBody, Literal.endsInBackslash, hp]
  | [e] => by
    simp only [lastOfBody, lastOf, Literal.endsInBackslash, List.getLast?_singleton, beq_iff_eq, Option.some.injEq]
    split <;> simp_all
  | e :: e' :: es => by
    have ih := lastOfBody_eq_backslash (p := ' ') (by decide) (e' :: es)
    rw [Literal.endsInBackslash] at ih ⊢
    rw [List.getLast?_cons_cons, ← ih]
    rfl

/-- **A string literal**: with the count off by one its `=` are turned, and its closing quote turns the count unless it
stands behind an escaped backslash. -/
theorem normalizeFrom_literal (off : Bool) {p : Char} (hp : p ≠ '\\') (lit : Literal) (rest : Text) :
    normalizeFrom off p (lit.chars ++ rest) =
      '"' :: lit.body.map (mend !off) ++ '"' :: normalizeFrom (off ^^ lit.endsInBackslash) p rest := by
  have hopen : normalizeFrom off p ('"' :: (lit.body ++ '"' :: rest)) =
      '"' :: normalizeFrom (!off) '"' (lit.body ++ '"' :: rest) := by
    simp [normalizeFrom, hp]
  have hchars : lit.chars ++ rest = '"' :: (lit.body ++ '"' :: rest) := by simp [Literal.chars]
  rw [hchars, hopen, normalizeFrom_body]
  have hlast := lastOfBody_eq_backslash (p := '"') (by decide) lit
  cases he : lit.endsInBackslash with
  | true =>
    rw [hlast.2 he]
    simp only [normalizeFrom, bne_self_eq_false, Bool.and_false, Bool.false_eq_true, if_false, List.cons_append]
    rw [normalizeFrom_prev (!off) (q := p) (by simp) hp]
    simp
  | false =>
    have hne : lastOfBody lit '"' ≠ '\\' := fun h => by rw [hlast.1 h] at he; cases he
    simp only [normalizeFrom, beq_self_eq_true, Bool.true_and, bne_iff_ne, ne_eq, hne, not_false_eq_true, if_true,
      Bool.not_not, List.cons_append]
    rw [normalizeFrom_prev off (q := p) (by simp) hp]
    simp

/-! ## Whole documents -/

def separator (relaxed : Nat → Bool) (n : Nat) : Char := if relaxed n then '=' else ':'

/-- Every piece the count can spoil is met with the count right. -/
def Sound (relaxed : Nat → Bool) : Bool → Nat → List (Space × Token) → Prop
  | _, _, []                        => True
  | off, n, (_, .string lit) :: ts  => (off = true → '=' ∉ lit.body) ∧ Sound relaxed (off ^^ lit.endsInBackslash) n ts
  | off, n, (_, .colon) :: ts       => (off = true → relaxed n = false) ∧ Sound relaxed off (n + 1) ts
  | off, n, _ :: ts                 => Sound relaxed off n ts

theorem mend_eq_self (off : Bool) (c : Char) : mend (!off) c = c ↔ (off = true → c ≠ '=') := by
  cases off with
  | false => simp [mend]
  | true =>
    by_cases hc : c = '='
    · subst hc; decide
    · simp [mend, hc]

theorem map_mend_eq (off : Bool) : ∀ (cs : Text), cs.map (mend !off) = cs ↔ (off = true → '=' ∉ cs)
  | [] => by simp
  | c :: cs => by
    rw [List.map_cons, List.cons.injEq, mend_eq_self, map_mend_eq off cs, List.mem_cons, not_or, ← imp_and, ne_comm]

/-- **The text comes back exactly when it is sound.** -/
theorem normalizeFrom_spell (relaxed : Nat → Bool) {p : Char} (hp : p ≠ '\\') (tail : Space) :
    ∀ (ts : List (Space × Token)) (n : Nat) (off : Bool),
      normalizeFrom off p (spell (separator relaxed) n ts ++ tail.chars) = spell (fun _ => ':') n ts ++ tail.chars ↔
        Sound relaxed off n ts
  | [], n, off => by
    have := normalizeFrom_bare off hp [] tail.chars (bare_space tail)
    simp only [List.append_nil, normalizeFrom] at this
    simp [spell, Sound, this]
  | (ws, t) :: ts, n, off => by
    have hspace := fun rest => normalizeFrom_bare off hp rest ws.chars (bare_space ws)
    cases t with
    | string lit =>
      have ih := normalizeFrom_spell relaxed hp tail ts n (off ^^ lit.endsInBackslash)
      rw [Sound, ← ih, ← map_mend_eq]
      simp only [spell, Token.chars, List.append_assoc]
      rw [hspace, List.append_cancel_left_eq, normalizeFrom_literal off hp]
      simp only [Literal.chars, List.cons_append, List.append_assoc, List.cons.injEq, true_and, List.nil_append]
      constructor
      · intro h
        obtain ⟨h1, h2⟩ := List.append_inj h (List.length_map ..)
        exact ⟨h1, (List.cons.inj h2).2⟩
      · rintro ⟨h1, h2⟩
        rw [h1, h2]
    | colon =>
      have ih := normalizeFrom_spell relaxed hp tail ts (n + 1) off
      rw [Sound, ← ih]
      simp only [spell, List.append_assoc, List.cons_append]
      have hsep : separator relaxed n ≠ '"' ∧ separator relaxed n ≠ '\\' := by
        unfold separator
        split <;> decide
      rw [hspace, List.append_cancel_left_eq, normalizeFrom_plain hsep.1,
        normalizeFrom_prev off (mend_ne_backslash hsep.2 off) hp, List.cons.injEq]
      refine and_congr_left fun _ => ?_
      cases off <;> cases hr : relaxed n <;> simp [separator, mend, hr]
    | _ =>
      have ih := normalizeFrom_spell relaxed hp tail ts n off
      simp only [spell, Sound, List.append_assoc]
      rw [hspace, List.append_cancel_left_eq, normalizeFrom_bare off hp _ _ (bare_token (by simp)),
        List.append_cancel_left_eq]
      exact ih

/-! ## When the count is right -/

/-- A token the count can spoil: a string with an `=` in it, or a member separator. -/
def fragile : Token → Bool
  | .string lit => lit.body.contains '='
  | .colon      => true
  | _           => false

def endsInBackslash : Token → Bool
  | .string lit => lit.endsInBackslash
  | _           => false

/-- Every fragile token has an even number of literals that end in an escaped backslash before it. -/
def Counted (tokens : List Token) : Prop :=
  ∀ pre t post, tokens = pre ++ t :: post → fragile t = true → Even (pre.countP endsInBackslash)

def CountedFrom (off : Bool) (tokens : List Token) : Prop :=
  ∀ pre t post, tokens = pre ++ t :: post → fragile t = true → Even (off.toNat + pre.countP endsInBackslash)

theorem countedFrom_cons (off : Bool) (t : Token) (ts : List Token) :
    CountedFrom off (t :: ts) ↔ (off = true → fragile t = false) ∧ CountedFrom (off ^^ endsInBackslash t) ts := by
  have hparity : ∀ n : Nat, Even (off.toNat + ((endsInBackslash t).toNat + n)) ↔
      Even ((off ^^ endsInBackslash t).toNat + n) := by
    intro n
    cases off <;> cases endsInBackslash t <;> simp [Nat.even_add, parity_simps]
  have hcount : ∀ pre : List Token, (t :: pre).countP endsInBackslash =
      (endsInBackslash t).toNat + pre.countP endsInBackslash := by
    intro pre
    rw [List.countP_cons]
    cases endsInBackslash t <;> simp [Nat.add_comm]
  constructor
  · intro h
    refine ⟨fun hoff => ?_, fun pre u post hts hu => ?_⟩
    · by_contra hf
      have := h [] t ts rfl (by simpa using hf)
      subst hoff
      revert this
      decide
    · have := h (t :: pre) u post (by rw [hts]; rfl) hu
      rw [hcount, hparity] at this
      exact this
  · rintro ⟨h1, h2⟩ pre u post hts hu
    cases pre with
    | nil =>
      simp only [List.nil_append, List.cons.injEq] at hts
      cases off with
      | false => simp
      | true => rw [← hts.1, h1 rfl] at hu; cases hu
    | cons x pre =>
      simp only [List.cons_append, List.cons.injEq] at hts
      obtain ⟨rfl, hts⟩ := hts
      rw [hcount, hparity]
      exact h2 pre u post hts hu

theorem sound_all : ∀ (ts : List (Space × Token)) (n : Nat) (off : Bool),
    Sound (fun _ => true) off n ts ↔ CountedFrom off (ts.map Prod.snd)
  | [], n, off => by simp [Sound, CountedFrom]
  | (ws, t) :: ts, n, off => by
    rw [List.map_cons, countedFrom_cons]
    cases t with
    | string lit =>
      rw [Sound, sound_all ts]
      simp [fragile, endsInBackslash]
    | colon =>
      rw [Sound, sound_all ts]
      simp [fragile, endsInBackslash]
    | _ =>
      simp only [Sound]
      rw [sound_all ts]
      simp [fragile, endsInBackslash]

theorem Sound.of_all {relaxed : Nat → Bool} : ∀ {ts : List (Space × Token)} {n : Nat} {off : Bool},
    Sound (fun _ => true) off n ts → Sound relaxed off n ts
  | [], _, _, _ => trivial
  | (ws, t) :: ts, n, off, h => by
    cases t with
    | string lit => exact ⟨h.1, Sound.of_all h.2⟩
    | colon => exact ⟨fun hoff => absurd (h.1 hoff) (by simp), Sound.of_all h.2⟩
    | _ => exact @Sound.of_all _ ts _ _ h

/-- What a document is owed: it is left alone, and any of its separators may be spelled `=`. -/
def Repairs (d : Document) : Prop :=
  normalizeRelaxedJson d.text = d.text ∧
    ∀ relaxed : Nat → Bool, normalizeRelaxedJson (d.spelled (separator relaxed)) = d.text

theorem normalizeRelaxedJson_spelled (d : Document) (relaxed : Nat → Bool) :
    normalizeRelaxedJson (d.spelled (separator relaxed)) = d.text ↔ Sound relaxed false 0 d.spaced :=
  normalizeFrom_spell relaxed (by decide) d.trailing d.spaced 0 false

/-- **The function only repairs** a document exactly when each string with an `=` in it and each member separator has an
even number of string literals before it that end in an escaped backslash. -/
theorem repairs_iff_counted (d : Document) : Repairs d ↔ Counted d.tokens := by
  have hcounted : Counted d.tokens ↔ CountedFrom false d.tokens := by simp [Counted, CountedFrom]
  have hstrict : d.text = d.spelled (separator fun _ => false) := rfl
  rw [hcounted, Document.tokens, ← sound_all d.spaced 0 false]
  constructor
  · rintro ⟨-, h⟩
    exact (normalizeRelaxedJson_spelled d _).1 (h _)
  · intro h
    have hall := fun relaxed => (normalizeRelaxedJson_spelled d relaxed).2 h.of_all
    exact ⟨by rw [hstrict]; exact hall _, hall⟩

/-- `{"p":"\\","k":"a=b"}`. -/
def backslashThenEquals : Document where
  spaced := [([], .beginObject), ([], .string [.plain 'p' rfl]), ([], .colon), ([], .string [.escape .backslash]),
    ([], .comma), ([], .string [.plain 'k' rfl]), ([], .colon),
    ([], .string [.plain 'a' rfl, .plain '=' rfl, .plain 'b' rfl]), ([], .endObject)]
  trailing := []
  wellFormed := .object _ (.more _ [.string [.escape .backslash]] _ (.scalar _ rfl) (.last _ _ (.scalar _ rfl)))

/-- The value `a=b` becomes `a:b`. -/
theorem repairs_not_backslashThenEquals : ¬ Repairs backslashThenEquals := by
  intro h
  have := h.1
  revert this
  decide

end RelaxedJson
end Graftcode
