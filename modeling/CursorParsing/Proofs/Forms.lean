/-!
# Forms of texts

A form says, over lists of characters, which text in front has which meaning and what comes after it.
Forms are put together as parsers are.
-/

namespace CursorParsing

/-- The text in front, its meaning, and what comes after it. -/
def Form (Meaning : Type) := List Char → Meaning → List Char → Prop

namespace Form

variable {Meaning Result Other : Type}

/-- No text means this. -/
def nothing (meaning : Meaning) : Form Meaning := fun left given rest => given = meaning ∧ left = rest

def oneThat (accepts : Char → Bool) : Form Char :=
  fun left character rest => left = character :: rest ∧ accepts character = true

def literal (characters : List Char) : Form Unit := fun left _ rest => left = characters ++ rest

def andThen (form : Form Meaning) (next : Meaning → Form Result) : Form Result :=
  fun left result rest => ∃ meaning middle, form left meaning middle ∧ next meaning middle result rest

def map (change : Meaning → Result) (form : Form Meaning) : Form Result :=
  form.andThen fun meaning => nothing (change meaning)

def lift2 (combine : Meaning → Result → Other) (first : Form Meaning) (second : Form Result) :
    Form Other :=
  first.andThen fun meaning => second.map (combine meaning)

def keepLeft (first : Form Meaning) (second : Form Result) : Form Meaning :=
  lift2 (fun meaning _ => meaning) first second

/-- The form again and again. -/
inductive Runs (form : Form Meaning) : Form (List Meaning)
  | none (left : List Char) : Runs form left [] left
  | next {left middle rest : List Char} {meaning : Meaning} {meanings : List Meaning}
      (first : form left meaning middle) (more : Runs form middle meanings rest) :
      Runs form left (meaning :: meanings) rest

/-- The form as often as it is there. -/
def many (form : Form Meaning) : Form (List Meaning) :=
  fun left meanings rest => form.Runs left meanings rest ∧ ∀ meaning after, ¬form rest meaning after

def atLeastOnce (form : Form Meaning) : Form (List Meaning) :=
  fun left meanings rest => form.many left meanings rest ∧ meanings ≠ []

def times (count : Nat) (form : Form Meaning) : Form (List Meaning) :=
  fun left meanings rest => form.Runs left meanings rest ∧ meanings.length = count

/-- The form is never that of an empty text. -/
def Consumes (form : Form Meaning) : Prop :=
  ∀ left meaning rest, form left meaning rest → rest.length < left.length

/-! ## What composed forms say -/

theorem map_iff {change : Meaning → Result} {form : Form Meaning} {left rest : List Char}
    {result : Result} :
    map change form left result rest ↔ ∃ meaning, form left meaning rest ∧ result = change meaning := by
  constructor
  · rintro ⟨meaning, middle, formed, same, rfl⟩
    exact ⟨meaning, formed, same⟩
  · rintro ⟨meaning, formed, same⟩
    exact ⟨meaning, rest, formed, same, rfl⟩

theorem lift2_iff {combine : Meaning → Result → Other} {first : Form Meaning} {second : Form Result}
    {left rest : List Char} {other : Other} :
    lift2 combine first second left other rest ↔
      ∃ meaning result middle, first left meaning middle ∧ second middle result rest ∧
        other = combine meaning result := by
  constructor
  · rintro ⟨meaning, middle, formed, mapped⟩
    rcases map_iff.mp mapped with ⟨result, more, same⟩
    exact ⟨meaning, result, middle, formed, more, same⟩
  · rintro ⟨meaning, result, middle, formed, more, same⟩
    exact ⟨meaning, middle, formed, map_iff.mpr ⟨result, more, same⟩⟩

theorem keepLeft_iff {first : Form Meaning} {second : Form Result} {left rest : List Char}
    {meaning : Meaning} :
    keepLeft first second left meaning rest ↔
      ∃ middle result, first left meaning middle ∧ second middle result rest := by
  rw [keepLeft, lift2_iff]
  constructor
  · rintro ⟨_, result, middle, formed, more, rfl⟩
    exact ⟨middle, result, formed, more⟩
  · rintro ⟨middle, result, formed, more⟩
    exact ⟨meaning, result, middle, formed, more, rfl⟩

theorem consumes_oneThat (accepts : Char → Bool) : (oneThat accepts).Consumes := by
  rintro _ character rest ⟨rfl, _⟩
  exact Nat.lt_succ_self rest.length

theorem consumes_literal {characters : List Char} (notEmpty : characters ≠ []) :
    (literal characters).Consumes := by
  rintro _ _ rest rfl
  have positive := List.length_pos_iff.mpr notEmpty
  rw [List.length_append]
  omega

theorem runs_oneThat_iff {accepts : Char → Bool} {left taken rest : List Char} :
    (oneThat accepts).Runs left taken rest ↔
      left = taken ++ rest ∧ ∀ character ∈ taken, accepts character = true := by
  constructor
  · intro runs
    induction runs with
    | none left => exact ⟨rfl, List.forall_mem_nil _⟩
    | next first more induction =>
        rcases first with ⟨rfl, accepted⟩
        rcases induction with ⟨rfl, others⟩
        exact ⟨rfl, List.forall_mem_cons.mpr ⟨accepted, others⟩⟩
  · rintro ⟨rfl, allAccepted⟩
    induction taken with
    | nil => exact .none rest
    | cons character taken induction =>
        rcases List.forall_mem_cons.mp allAccepted with ⟨accepted, others⟩
        exact .next ⟨rfl, accepted⟩ (induction others)

/-- A run of characters goes on up to the first that is not accepted, or up to the end. -/
theorem many_oneThat_iff {accepts : Char → Bool} {left taken rest : List Char} :
    (oneThat accepts).many left taken rest ↔
      left = taken ++ rest ∧ (∀ character ∈ taken, accepts character = true) ∧
        ∀ character ∈ rest.head?, accepts character = false := by
  have halts : (∀ character after, ¬oneThat accepts rest character after) ↔
      ∀ character ∈ rest.head?, accepts character = false := by
    cases rest <;> simp [oneThat]
  rw [many, runs_oneThat_iff, halts, and_assoc]

/-- A form that takes something every time is there a last time. -/
theorem exists_many {form : Form Meaning} (consumes : form.Consumes) (left : List Char) :
    ∃ meanings rest, form.many left meanings rest := by
  by_cases found : ∃ meaning middle, form left meaning middle
  · rcases found with ⟨meaning, middle, first⟩
    have shorter := consumes left meaning middle first
    rcases exists_many consumes middle with ⟨meanings, rest, runs, halts⟩
    exact ⟨meaning :: meanings, rest, .next first runs, halts⟩
  · exact ⟨[], left, .none left, fun meaning middle first => found ⟨meaning, middle, first⟩⟩
termination_by left.length

theorem runs_character_iff {character : Char} {left rest : List Char} {count : List Unit} :
    (literal [character]).Runs left count rest ↔
      left = List.replicate count.length character ++ rest := by
  constructor
  · intro runs
    induction runs with
    | none left => rfl
    | next first more induction =>
        rw [first, induction]
        rfl
  · rintro rfl
    induction count with
    | nil => exact .none rest
    | cons _ count induction => exact .next rfl induction

theorem many_character_iff {character : Char} {left rest : List Char} {count : List Unit} :
    (literal [character]).many left count rest ↔
      left = List.replicate count.length character ++ rest ∧ rest.head? ≠ some character := by
  have halts : (∀ meaning after, ¬literal [character] rest meaning after) ↔
      rest.head? ≠ some character := by
    cases rest <;> simp [literal]
  rw [many, runs_character_iff, halts]

end Form

end CursorParsing
