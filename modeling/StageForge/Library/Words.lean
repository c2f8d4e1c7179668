import StageForge.Library.PythonList

/-!
# Texts that are split at white space

`words` is `s.split()` of Python, on the characters: the longest pieces without white space.

A word of the form `key=value` is read by `assignment`; of several values of one key the last one counts.
-/

namespace Python

/-- `s.split()`. -/
def words (cs : List Char) : List (List Char) := (cs.splitOnP isSpace).filter fun word => !word.isEmpty

variable {as bs cs word value : List Char} {c : Char} {key name : String}

@[simp] lemma words_nil : words [] = [] := rfl

lemma words_append_cons (as bs : List Char) (hc : isSpace c = true) : words (as ++ c :: bs) = words as ++ words bs := by
  unfold words
  rw [List.splitOnP_append_cons as bs hc, List.filter_append]

lemma words_cons (hc : isSpace c = true) : words (c :: bs) = words bs := by
  simpa using words_append_cons [] bs hc

lemma words_eq_singleton (hspace : ∀ c ∈ cs, isSpace c = false) (hne : cs ≠ []) : words cs = [cs] := by
  unfold words
  rw [List.splitOnP_eq_singleton hspace]
  simp [hne]

lemma words_eq_nil (h : ∀ c ∈ cs, isSpace c = true) : words cs = [] := by
  induction cs with
  | nil => rfl
  | cons c cs ih =>
    obtain ⟨hc, hcs⟩ := List.forall_mem_cons.mp h
    rw [words_cons hc, ih hcs]

lemma words_append_of_space (h : ∀ c ∈ bs, isSpace c = true) : words (as ++ bs) = words as := by
  cases bs with
  | nil => rw [List.append_nil]
  | cons c bs =>
    obtain ⟨hc, hbs⟩ := List.forall_mem_cons.mp h
    rw [words_append_cons as bs hc, words_eq_nil hbs, List.append_nil]

lemma words_dropWhile (cs : List Char) : words (cs.dropWhile isSpace) = words cs := by
  induction cs with
  | nil => rfl
  | cons c cs ih =>
    by_cases hc : isSpace c = true
    · rw [List.dropWhile_cons_of_pos hc, ih, words_cons hc]
    · rw [List.dropWhile_cons_of_neg hc]

lemma words_rdropWhile (cs : List Char) : words (cs.rdropWhile isSpace) = words cs := by
  have hspace : ∀ c ∈ cs.rtakeWhile isSpace, isSpace c = true := fun c hc => List.mem_rtakeWhile_imp hc
  calc words (cs.rdropWhile isSpace)
      = words (cs.rdropWhile isSpace ++ cs.rtakeWhile isSpace) := (words_append_of_space hspace).symm
    _ = words cs := by rw [List.rdropWhile_append_rtakeWhile]

lemma words_strip (s : String) : words (strip s).toList = words s.toList := by
  rw [strip_eq, String.toList_ofList, words_rdropWhile, words_dropWhile]

/-! ## Assignments -/

/-- `token.split("=", 1)`, where there is an equals sign in the token. -/
def assignment (token : List Char) : Option (String × String) :=
  (splitFirst (fun c => c = '=') token).map fun (key, _, value) => (String.ofList key, String.ofList value)

def valuesOf (key : String) (tokens : List (List Char)) : List String :=
  tokens.filterMap fun token => (assignment token).bind fun a => if a.1 = key then some a.2 else none

@[simp] lemma valuesOf_nil : valuesOf key [] = [] := rfl

lemma splitFirst_append {α : Type} {p : α → Bool} {a : α} {before after : List α} 
    (hbefore : ∀ b ∈ before, p b = false) (ha : p a = true) :
    splitFirst p (before ++ a :: after) = some (before, a, after) := by
  induction before with
  | nil => simp [splitFirst, ha]
  | cons b before ih =>
    obtain ⟨hb, hrest⟩ := List.forall_mem_cons.mp hbefore
    simp [splitFirst, hb, ih hrest]

lemma assignment_append (name value : String) (hname : '=' ∉ name.toList) :
    assignment (name.toList ++ '=' :: value.toList) = some (name, value) := by
  unfold assignment
  rw [splitFirst_append (fun b hb => by simpa using ne_of_mem_of_not_mem hb hname) (by simp)]
  simp

/-- The dictionary of assignments: an entry hides the ones with its key behind it. -/
def assignments (tokens : List (List Char)) : List (String × String) :=
  tokens.foldl (fun values token => ((assignment token).map fun a => a :: values).getD values) []

lemma lookup_foldl_assignments (tokens : List (List Char)) (values : List (String × String)) :
    (tokens.foldl (fun values token => ((assignment token).map fun a => a :: values).getD values) values).lookup key =
      (valuesOf key tokens).getLast?.or (values.lookup key) := by
  induction tokens generalizing values with
  | nil => rfl
  | cons token tokens ih =>
    rw [List.foldl_cons, ih]
    cases hassign : assignment token with
    | none => simp [valuesOf, hassign]
    | some a =>
      obtain ⟨name, value⟩ := a
      by_cases hkey : name = key
      · subst hkey
        simp [valuesOf, hassign, List.getLast?_cons]
      · simp [valuesOf, hassign, hkey, List.lookup_cons, beq_false_of_ne (Ne.symm hkey)]

lemma lookup_assignments (key : String) (tokens : List (List Char)) :
    (assignments tokens).lookup key = (valuesOf key tokens).getLast? := by
  unfold assignments
  rw [lookup_foldl_assignments]
  simp

end Python
