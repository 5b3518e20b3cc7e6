import Graftcode.Dict
import Graftcode.IncomingTrace
/-!
# MessageTemplate — the text of a log record

`MessageTemplate.py` and `MessageTemplate.java` of the connectors.  A template is scanned once: doubled braces are braces,
a placeholder takes the next argument, and its name becomes a property.  The two ports differ in the white space that they
trim off a name and in how they write a value.
-/
namespace Graftcode
namespace MessageTemplate

open Trimming (trim)

/-- How a language writes a value: whether it is null, its text unless writing it raises, and the name of its class. -/
structure Writing (Value : Type) where
  isNull    : Value → Bool
  str       : Value → Option Text
  className : Value → Text

inductive Port where
  | python
  | java

def Port.isSpace : Port → Char → Bool
  | python => Tracing.Python.isSpace
  | java   => Tracing.Java.isSpace

section Code

variable {Value : Type} (port : Port) (writing : Writing Value)

def format (value : Value) : Text :=
  if writing.isNull value then "(null)".toList
  else
    match writing.str value with
    | some text => text
    | none      => writing.className value

def withoutSigil : Text → Text
  | '@' :: name => name
  | '$' :: name => name
  | name        => name

def propertyName (placeholder : Text) : Text :=
  withoutSigil (trim port.isSpace (placeholder.takeWhile fun c => c != ',' && c != ':'))

/-- Behind an opening brace: what stands before the next closing one, and what behind it. -/
def closing (c : Char) (rest : Text) : Option (Text × Text) :=
  if c = '{' then
    match rest.dropWhile (· != '}') with
    | []         => none
    | _ :: after => some (rest.takeWhile (· != '}'), after)
  else none

theorem length_closing {c : Char} {rest placeholder after : Text} (h : closing c rest = some (placeholder, after)) :
    after.length < rest.length := by
  have hle := (List.dropWhile_suffix (fun c : Char => c != '}') (l := rest)).length_le
  unfold closing at h
  by_cases hc : c = '{'
  · rw [if_pos hc] at h
    cases hdrop : rest.dropWhile (· != '}') with
    | nil =>
      rw [hdrop] at h
      cases h
    | cons d after' =>
      rw [hdrop] at h hle
      cases h
      exact Nat.lt_of_succ_le hle
  · rw [if_neg hc] at h
    cases h

/-- The loop of `render`: what is left of the template and of the arguments, the text so far and the properties. -/
def loop : Text → List Value → Text → Dict Text Text → Text × Dict Text Text
  | [], _, builder, properties => (builder, properties)
  | c :: rest, values, builder, properties =>
    if (c = '{' ∨ c = '}') ∧ rest.head? = some c then loop rest.tail values (builder ++ [c]) properties
    else
      match hclosing : closing c rest with
      | none => loop rest values (builder ++ [c]) properties
      | some (placeholder, after) =>
        match values with
        | [] => loop rest [] (builder ++ [c]) properties
        | value :: values =>
          have := length_closing hclosing
          let text := format writing value
          let name := propertyName port placeholder
          loop after values (builder ++ text) (if name.isEmpty then properties else properties.put name text)
  termination_by template => template.length
  decreasing_by
    · simp only [List.length_tail, List.length_cons]
      omega
    · simp only [List.length_cons]
      omega
    · simp only [List.length_cons]
      omega
    · simp only [List.length_cons]
      omega

def render (template : Option Text) (args : Option (List Value)) (properties : Dict Text Text) : Text × Dict Text Text :=
  match template with
  | none          => ([], properties)
  | some template => loop port writing template (args.getD []) [] properties

end Code

/-! ## The grammar of templates -/

/-- A text with each of its braces doubled. -/
def doubled (s : Text) : Text := s.flatMap fun c => if c = '{' ∨ c = '}' then [c, c] else [c]

def Braceless (s : Text) : Prop := ∀ c ∈ s, c ≠ '{' ∧ c ≠ '}'

inductive Piece where
  | literal (s : Text)
  | placeholder (s : { s : Text // Braceless s })

def Piece.template : Piece → Text
  | literal s     => doubled s
  | placeholder s => '{' :: s.1 ++ ['}']

def templateOf (pieces : List Piece) : Text := pieces.flatMap Piece.template

section Grammar

variable {Value : Type} (port : Port) (writing : Writing Value)

/-- The literals as they are, and for each placeholder the next argument, or itself when there is none. -/
def rendered : List Piece → List Value → Text
  | [], _                                     => []
  | .literal s :: pieces, values              => s ++ rendered pieces values
  | .placeholder _ :: pieces, value :: values => format writing value ++ rendered pieces values
  | .placeholder s :: pieces, []              => '{' :: s.1 ++ '}' :: rendered pieces []

/-- The placeholders that get an argument, each with its own. -/
def consumed : List Piece → List Value → List (Text × Value)
  | .literal _ :: pieces, values              => consumed pieces values
  | .placeholder s :: pieces, value :: values => (s.1, value) :: consumed pieces values
  | _, _                                      => []

/-- The name in a placeholder: up to the first comma or colon, between white space, without an `@` or `$` before it. -/
def Names (placeholder name : Text) : Prop :=
  ∃ before core after rest, placeholder = before ++ core ++ after ++ rest ∧
    (∀ c ∈ before ++ core ++ after, c ≠ ',' ∧ c ≠ ':') ∧ (∀ c, rest.head? = some c → c = ',' ∨ c = ':') ∧
    (∀ c ∈ before, port.isSpace c = true) ∧ (∀ c ∈ after, port.isSpace c = true) ∧
    (∀ c, core.head? = some c ∨ core.getLast? = some c → port.isSpace c = false) ∧
    (core = '@' :: name ∨ core = '$' :: name ∨
      core = name ∧ ∀ c, name.head? = some c → c ≠ '@' ∧ c ≠ '$')

/-! ## One pass over a template -/

variable {port writing} {c : Char} {rest : Text} {values : List Value} {builder : Text} {properties : Dict Text Text}

theorem closing_of_ne (h : c ≠ '{') (rest : Text) : closing c rest = none := if_neg h

theorem closing_placeholder {s : Text} (h : Braceless s) (after : Text) :
    closing '{' (s ++ '}' :: after) = some (s, after) := by
  have hpos : ∀ c ∈ s, (c != '}') = true := fun c hc => bne_iff_ne.2 (h c hc).2
  rw [closing, if_pos rfl, Trimming.dropWhile_append hpos, List.takeWhile_append_of_pos hpos]
  simp

theorem loop_nil : loop port writing [] values builder properties = (builder, properties) := by
  rw [loop]

theorem loop_doubled (hc : c = '{' ∨ c = '}') :
    loop port writing (c :: c :: rest) values builder properties =
      loop port writing rest values (builder ++ [c]) properties := by
  rw [loop, if_pos ⟨hc, rfl⟩]
  rfl

/-- A character is copied when it is not one of two braces and does not open a placeholder that gets an argument. -/
theorem loop_copied (hc : ¬ ((c = '{' ∨ c = '}') ∧ rest.head? = some c)) (h : closing c rest = none ∨ values = []) :
    loop port writing (c :: rest) values builder properties =
      loop port writing rest values (builder ++ [c]) properties := by
  rw [loop, if_neg hc]
  split
  · rfl
  · rename_i hsome
    rcases h with h | rfl
    · rw [h] at hsome
      cases hsome
    · rfl

/-- The properties with the one of a placeholder, if it has a name. -/
def withProperty (port : Port) (writing : Writing Value) (properties : Dict Text Text) (placeholder : Text) (value : Value) :
    Dict Text Text :=
  if (propertyName port placeholder).isEmpty then properties
  else properties.put (propertyName port placeholder) (format writing value)

/-- The brace that opens a placeholder is not one of two. -/
theorem Braceless.not_doubled {s : Text} (h : Braceless s) (after : Text) :
    ¬ (('{' = '{' ∨ '{' = '}') ∧ (s ++ '}' :: after).head? = some '{') := by
  rintro ⟨-, hhead⟩
  cases s with
  | nil => simp at hhead
  | cons c s => exact (h c List.mem_cons_self).1 (Option.some.inj hhead)

theorem loop_placeholder {s : Text} (h : Braceless s) (after : Text) (value : Value) :
    loop port writing ('{' :: (s ++ '}' :: after)) (value :: values) builder properties =
      loop port writing after values (builder ++ format writing value) (withProperty port writing properties s value) := by
  rw [loop, if_neg (h.not_doubled after)]
  split
  · rename_i hnone
    rw [closing_placeholder h] at hnone
    cases hnone
  · rename_i hsome
    rw [closing_placeholder h] at hsome
    cases hsome
    rfl

theorem loop_literal : ∀ (s : Text) (builder : Text), loop port writing (doubled s ++ rest) values builder properties =
    loop port writing rest values (builder ++ s) properties
  | [], builder => by rw [List.append_nil]; rfl
  | c :: s, builder => by
    have ih := loop_literal s (builder ++ [c])
    rw [List.append_assoc, List.singleton_append] at ih
    rw [← ih]
    by_cases hc : c = '{' ∨ c = '}'
    · have hdouble : doubled (c :: s) ++ rest = c :: c :: (doubled s ++ rest) := by simp [doubled, hc]
      rw [hdouble, loop_doubled hc]
    · have hsingle : doubled (c :: s) ++ rest = c :: (doubled s ++ rest) := by simp [doubled, hc]
      rw [hsingle, loop_copied (fun h => hc h.1) (Or.inl (closing_of_ne (fun h => hc (Or.inl h)) _))]

/-- A closing brace before `text` is copied, and does not take part in a pair, as far as the result goes. -/
def Closes (port : Port) (writing : Writing Value) (text : Text) : Prop :=
  ∀ builder properties, loop port writing ('}' :: text) [] builder properties =
    loop port writing text [] (builder ++ ['}']) properties

theorem closes_of_head (h : rest.head? ≠ some '}') : Closes port writing rest :=
  fun _ _ => loop_copied (fun hc => h hc.2) (Or.inr rfl)

/-- Three closing braces are one, whichever two of them are the pair. -/
theorem closes_literal (hrest : Closes port writing rest) : ∀ s : Text, Closes port writing (doubled s ++ rest)
  | [] => hrest
  | c :: s => by
    by_cases hc : c = '}'
    · subst hc
      have hdouble : doubled ('}' :: s) ++ rest = '}' :: '}' :: (doubled s ++ rest) := by simp [doubled]
      intro builder properties
      rw [hdouble, loop_doubled (Or.inr rfl), closes_literal hrest s, loop_doubled (Or.inr rfl)]
    · apply closes_of_head
      by_cases hopen : c = '{'
      · simp [doubled, hopen]
      · simp [doubled, hopen, hc]

theorem closes_templateOf : ∀ pieces : List Piece, Closes port writing (templateOf pieces)
  | [] => closes_of_head (by simp [templateOf])
  | .literal s :: pieces => closes_literal (closes_templateOf pieces) s
  | .placeholder s :: pieces => closes_of_head (by simp [templateOf, Piece.template])

/-- Without arguments a placeholder is copied up to its closing brace. -/
theorem loop_unfilled : ∀ {s : Text}, Braceless s → ∀ builder : Text,
    loop port writing (s ++ rest) ([] : List Value) builder properties =
      loop port writing rest [] (builder ++ s) properties
  | [], _, builder => by rw [List.append_nil]; rfl
  | c :: s, h, builder => by
    have hc := h c List.mem_cons_self
    have ih := loop_unfilled (fun d hd => h d (List.mem_cons_of_mem c hd)) (builder ++ [c])
    rw [List.append_assoc, List.singleton_append] at ih
    rw [← ih]
    exact loop_copied (fun hb => hb.1.elim hc.1 hc.2) (Or.inr rfl)

theorem consumed_nil : ∀ pieces : List Piece, consumed pieces ([] : List Value) = []
  | [] => rfl
  | .literal _ :: pieces => consumed_nil pieces
  | .placeholder _ :: _ => rfl

theorem templateOf_placeholder (s : { s : Text // Braceless s }) (pieces : List Piece) :
    templateOf (.placeholder s :: pieces) = '{' :: (s.1 ++ '}' :: templateOf pieces) := by
  simp [templateOf, Piece.template]

/-- **The scan of a template** leaves the pieces rendered, with the properties of the placeholders that got an argument. -/
theorem loop_templateOf : ∀ (pieces : List Piece) (values : List Value) (builder : Text) (properties : Dict Text Text),
    loop port writing (templateOf pieces) values builder properties =
      (builder ++ rendered writing pieces values,
        (consumed pieces values).foldl (fun properties entry => withProperty port writing properties entry.1 entry.2)
          properties)
  | [], values, builder, properties => by
    rw [templateOf, List.flatMap_nil, loop_nil, rendered, List.append_nil]
    rfl
  | .literal s :: pieces, values, builder, properties => by
    rw [templateOf, List.flatMap_cons, Piece.template, loop_literal]
    exact (loop_templateOf pieces values (builder ++ s) properties).trans (by rw [rendered, consumed, List.append_assoc])
  | .placeholder s :: pieces, value :: values, builder, properties => by
    rw [templateOf_placeholder, loop_placeholder s.2, loop_templateOf pieces values, rendered, consumed, List.append_assoc]
    rfl
  | .placeholder s :: pieces, [], builder, properties => by
    rw [templateOf_placeholder, loop_copied (s.2.not_doubled _) (Or.inr rfl), loop_unfilled s.2, closes_templateOf pieces,
      loop_templateOf pieces [], rendered, consumed_nil, consumed_nil]
    simp

/-! ## The properties -/

theorem withoutSigil_iff (core name : Text) : withoutSigil core = name ↔
    core = '@' :: name ∨ core = '$' :: name ∨ core = name ∧ ∀ c, name.head? = some c → c ≠ '@' ∧ c ≠ '$' := by
  constructor
  · rintro rfl
    fun_cases withoutSigil core with
    | case1 name => exact Or.inl rfl
    | case2 name => exact Or.inr (Or.inl rfl)
    | case3 name hat hdollar =>
      refine Or.inr (Or.inr ⟨rfl, fun c hc => ?_⟩)
      obtain ⟨rest, rfl⟩ := List.head?_eq_some_iff.1 hc
      constructor
      · rintro rfl
        exact hat rest rfl
      · rintro rfl
        exact hdollar rest rfl
  · rintro (rfl | rfl | ⟨rfl, h⟩)
    · rfl
    · rfl
    · fun_cases withoutSigil core with
      | case1 name => exact absurd rfl (h '@' rfl).1
      | case2 name => exact absurd rfl (h '$' rfl).2
      | case3 name _ _ => rfl

theorem propertyName_iff {placeholder name : Text} : propertyName port placeholder = name ↔ Names port placeholder name := by
  have hsep : ∀ c : Char, (c != ',' && c != ':') = true ↔ c ≠ ',' ∧ c ≠ ':' := by
    intro c
    simp
  rw [propertyName, withoutSigil_iff]
  constructor
  · intro h
    obtain ⟨⟨before, after, hhead, hbefore, hafter⟩, hfirst, hlast⟩ := Trimming.trim_eq_iff.1
      (rfl : trim port.isSpace (placeholder.takeWhile fun c => c != ',' && c != ':') = _)
    refine ⟨before, _, after, placeholder.dropWhile fun c => c != ',' && c != ':', ?_, ?_, ?_, hbefore, hafter, ?_, h⟩
    · rw [← hhead, List.takeWhile_append_dropWhile]
    · intro c hc
      rw [← hhead] at hc
      have htake := List.mem_takeWhile_imp hc
      exact (hsep c).1 htake
    · intro c hc
      have hstop := Trimming.head?_dropWhile hc
      by_contra hn
      rw [not_or] at hn
      rw [(hsep c).2 hn] at hstop
      cases hstop
    · rintro c (hc | hc)
      · exact hfirst c hc
      · exact hlast c hc
  · rintro ⟨before, core, after, rest, rfl, hnone, hrest, hbefore, hafter, hends, h⟩
    have hstop : rest.takeWhile (fun c => c != ',' && c != ':') = [] := by
      cases rest with
      | nil => rfl
      | cons c rest =>
        rw [List.takeWhile_cons_of_neg]
        rw [hsep]
        rintro ⟨hcomma, hcolon⟩
        exact (hrest c rfl).elim hcomma hcolon
    have hcore : trim port.isSpace ((before ++ core ++ after ++ rest).takeWhile fun c => c != ',' && c != ':') = core := by
      rw [List.takeWhile_append_of_pos fun c hc => (hsep c).2 (hnone c hc), hstop, List.append_nil]
      exact Trimming.trim_eq_iff.2 ⟨⟨before, after, rfl, hbefore, hafter⟩, fun c hc => hends c (Or.inl hc),
        fun c hc => hends c (Or.inr hc)⟩
    rw [hcore]
    exact h

/-- The argument that a name keeps: of the last placeholder with that name. -/
def LastUnder (port : Port) (entries : List (Text × Value)) (name : Text) (value : Value) : Prop :=
  ∃ before placeholder after, entries = before ++ (placeholder, value) :: after ∧ Names port placeholder name ∧
    ∀ entry ∈ after, ¬ Names port entry.1 name

theorem lastUnder_append {entries : List (Text × Value)} {last : Text × Value} {name : Text} {value : Value} :
    LastUnder port (entries ++ [last]) name value ↔
      (Names port last.1 name ∧ value = last.2) ∨ (¬ Names port last.1 name ∧ LastUnder port entries name value) := by
  constructor
  · rintro ⟨before, placeholder, after, hsplit, hnames, hafter⟩
    rcases List.eq_nil_or_concat after with rfl | ⟨after, last', rfl⟩
    · obtain ⟨-, hlast⟩ := List.append_inj' hsplit rfl
      obtain rfl := List.singleton_inj.1 hlast
      exact Or.inl ⟨hnames, rfl⟩
    · rw [List.concat_eq_append, ← List.cons_append, ← List.append_assoc] at hsplit
      obtain ⟨rfl, hlast⟩ := List.append_inj' hsplit rfl
      obtain rfl := List.singleton_inj.1 hlast
      exact Or.inr ⟨hafter last (by simp), before, placeholder, after, rfl, hnames,
        fun entry he => hafter entry (by simp [he])⟩
  · rintro (⟨hnames, rfl⟩ | ⟨hnot, before, placeholder, after, rfl, hnames, hafter⟩)
    · exact ⟨entries, last.1, [], rfl, hnames, fun entry he => by cases he⟩
    · refine ⟨before, placeholder, after ++ [last], by simp, hnames, fun entry he => ?_⟩
      rcases List.mem_append.1 he with he | he
      · exact hafter entry he
      · rwa [List.mem_singleton.1 he]

theorem get?_withProperty (properties : Dict Text Text) (placeholder : Text) (value : Value) {name : Text}
    (hname : name ≠ []) :
    (withProperty port writing properties placeholder value).get? name =
      if propertyName port placeholder = name then some (format writing value) else properties.get? name := by
  unfold withProperty
  by_cases hempty : (propertyName port placeholder).isEmpty = true
  · rw [if_pos hempty, if_neg]
    rintro rfl
    exact hname (List.isEmpty_iff.1 hempty)
  · rw [if_neg hempty, Dict.get?_put]
    by_cases heq : name = propertyName port placeholder
    · rw [if_pos heq, if_pos heq.symm]
    · rw [if_neg heq, if_neg (Ne.symm heq)]

theorem get?_nil_withProperty (properties : Dict Text Text) (placeholder : Text) (value : Value) :
    (withProperty port writing properties placeholder value).get? [] = properties.get? [] := by
  unfold withProperty
  by_cases hempty : (propertyName port placeholder).isEmpty = true
  · rw [if_pos hempty]
  · rw [if_neg hempty, Dict.get?_put, if_neg]
    intro hnil
    rw [← hnil] at hempty
    exact hempty rfl

theorem get?_nil_properties (entries : List (Text × Value)) (properties : Dict Text Text) :
    (entries.foldl (fun properties entry => withProperty port writing properties entry.1 entry.2) properties).get? [] =
      properties.get? [] := by
  induction entries generalizing properties with
  | nil => rfl
  | cons entry entries ih => rw [List.foldl_cons, ih, get?_nil_withProperty]

/-- **The properties of a template**: each name has the text of the last argument consumed under it. -/
theorem get?_properties (entries : List (Text × Value)) (properties : Dict Text Text) {name : Text} (hname : name ≠ [])
    (text : Text) :
    (entries.foldl (fun properties entry => withProperty port writing properties entry.1 entry.2) properties).get? name =
        some text ↔
      (∃ value, LastUnder port entries name value ∧ text = format writing value) ∨
      (∀ entry ∈ entries, ¬ Names port entry.1 name) ∧ properties.get? name = some text := by
  induction entries using List.reverseRecOn with
  | nil => simp [LastUnder]
  | append_singleton entries last ih =>
    rw [List.foldl_append, List.foldl_cons, List.foldl_nil, get?_withProperty _ _ _ hname]
    simp only [lastUnder_append, List.forall_mem_append, List.forall_mem_singleton]
    by_cases hlast : propertyName port last.1 = name
    · have hnames := propertyName_iff.1 hlast
      rw [if_pos hlast]
      simp [hnames, eq_comm]
    · have hnames : ¬ Names port last.1 name := fun h => hlast (propertyName_iff.2 h)
      simp only [if_neg hlast, hnames, false_and, not_false_eq_true, true_and, false_or, and_true]
      exact ih

end Grammar

/-- **The grammar of message templates**, in both ports: a template of pieces is rendered piece by piece, and its
properties are the names of the placeholders that got an argument, each with the last; a text with its braces doubled is
rendered as it was. -/
theorem render_templateOf {Value : Type} (port : Port) (writing : Writing Value) (pieces : List Piece)
    (args : Option (List Value)) (properties : Dict Text Text) :
    (render port writing (some (templateOf pieces)) args properties).1 = rendered writing pieces (args.getD []) ∧
    (∀ name text, name ≠ [] →
      ((render port writing (some (templateOf pieces)) args properties).2.get? name = some text ↔
        (∃ value, LastUnder port (consumed pieces (args.getD [])) name value ∧ text = format writing value) ∨
        (∀ entry ∈ consumed pieces (args.getD []), ¬ Names port entry.1 name) ∧ properties.get? name = some text)) ∧
    (render port writing (some (templateOf pieces)) args properties).2.get? [] = properties.get? [] ∧
    ∀ s, render port writing (some (doubled s)) args properties = (s, properties) := by
  have hrender : render port writing (some (templateOf pieces)) args properties =
      (rendered writing pieces (args.getD []), (consumed pieces (args.getD [])).foldl
        (fun properties entry => withProperty port writing properties entry.1 entry.2) properties) :=
    loop_templateOf pieces (args.getD []) [] properties
  rw [hrender]
  refine ⟨rfl, fun name text hname => get?_properties _ _ hname text, get?_nil_properties _ _, fun s => ?_⟩
  have hone : render port writing (some (templateOf [.literal s])) args properties = _ :=
    loop_templateOf [.literal s] (args.getD []) [] properties
  have hself : templateOf [.literal s] = doubled s := by simp [templateOf, Piece.template]
  rw [hself, rendered, rendered, List.append_nil] at hone
  exact hone

end MessageTemplate
end Graftcode
