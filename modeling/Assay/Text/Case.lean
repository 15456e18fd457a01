/-! Identifiers in other conventions. An identifier runs its words together, each with a
capital in front. Snake case goes letter by letter and joins with underscores; kebab case
goes word by word and joins with hyphens. The two part ways at runs of capitals, which snake
case takes for words of one letter each. Letters are those of ASCII. -/
namespace Assay.Text

/-- A letter after the first, which starts a word if it is a capital. -/
def snakeLetter (c : Char) : List Char :=
  if c.isUpper then ['_', c.toLower] else [c.toLower]

def snakeCase (identifier : String) : String :=
  match identifier.toList with
  | [] => ""
  | first :: rest => String.ofList (first.toLower :: rest.flatMap snakeLetter)

/-- The case of the last letter of a word that has begun. -/
inductive LetterCase where
  | unknown
  | lower
  | upper
deriving DecidableEq

/-- The case after one more character; digits keep that of the letter before. -/
def LetterCase.after (before : LetterCase) (c : Char) : LetterCase :=
  if c.isLower then .lower else if c.isUpper then .upper else before

/-- The words of the text `word ++ rest`, of which `word` has begun and shows `shown`. A
capital starts a word after a small letter, and also after a capital when a small letter
follows it. -/
def wordsFrom (shown : LetterCase) (word : List Char) : List Char → List (List Char)
  | [] => if word = [] then [] else [word]
  | c :: rest =>
    if !c.isAlphanum then (if word = [] then [] else [word]) ++ wordsFrom .unknown [] rest
    else if shown.after c = .lower && rest.head?.any Char.isUpper then
      (word ++ [c]) :: wordsFrom .unknown [] rest
    else if shown = .upper && c.isUpper && rest.head?.any Char.isLower then
      word :: wordsFrom .unknown [c] rest
    else wordsFrom (shown.after c) (word ++ [c]) rest

def kebabCase (identifier : String) : String :=
  "-".intercalate ((wordsFrom .unknown [] identifier.toList).map fun word =>
    String.ofList (word.map Char.toLower))

section Single

/-- One word: a capital and small letters after it. -/
structure IsCapitalized (first : Char) (rest : List Char) : Prop where
  capital : first.isUpper = true
  small : ∀ c ∈ rest, c.isLower = true

variable {c first : Char} {rest word : List Char} {identifier : String}

theorem isUpper_of_isLower (small : c.isLower = true) : c.isUpper = false := by
  obtain ⟨low, _⟩ := (Bool.and_eq_true _ _).mp small
  have above : 97 ≤ c.toNat := UInt32.le_iff_toNat_le.mp (of_decide_eq_true low)
  refine decide_eq_false ?_
  rintro ⟨_, high⟩
  have below : c.toNat ≤ 90 := UInt32.le_iff_toNat_le.mp high
  omega

theorem isAlphanum_of_isLower (small : c.isLower = true) : c.isAlphanum = true := by
  change (c.isUpper || c.isLower || c.isDigit) = true
  rw [small, Bool.or_true, Bool.true_or]

theorem isAlphanum_of_isUpper (capital : c.isUpper = true) : c.isAlphanum = true := by
  change (c.isUpper || c.isLower || c.isDigit) = true
  rw [capital, Bool.true_or, Bool.true_or]

theorem flatMap_snakeLetter (small : ∀ c ∈ rest, c.isLower = true) :
    rest.flatMap snakeLetter = rest.map Char.toLower := by
  induction rest with
  | nil => rfl
  | cons c rest ih =>
    obtain ⟨first, others⟩ := List.forall_mem_cons.mp small
    rw [List.flatMap_cons, ih others, snakeLetter, isUpper_of_isLower first]
    rfl

theorem wordsFrom_of_isLower (shown : LetterCase) (begun : word ≠ [])
    (small : ∀ c ∈ rest, c.isLower = true) : wordsFrom shown word rest = [word ++ rest] := by
  induction rest generalizing shown word with
  | nil => simp [wordsFrom, begun]
  | cons c rest ih =>
    obtain ⟨first, others⟩ := List.forall_mem_cons.mp small
    have next : rest.head?.any Char.isUpper = false := by
      cases rest with
      | nil => rfl
      | cons d rest => exact isUpper_of_isLower (others d List.mem_cons_self)
    have step : wordsFrom shown word (c :: rest) =
        wordsFrom (shown.after c) (word ++ [c]) rest := by
      simp [wordsFrom, isAlphanum_of_isLower first, isUpper_of_isLower first, next]
    rw [step, ih _ (by simp) others, List.append_assoc, List.singleton_append]

theorem IsCapitalized.wordsFrom_eq (single : IsCapitalized first rest) :
    wordsFrom .unknown [] (first :: rest) = [first :: rest] := by
  have begins : wordsFrom .unknown [] (first :: rest) =
      wordsFrom (LetterCase.unknown.after first) [first] rest := by
    have large : first.isLower = false := by
      cases small : first.isLower with
      | false => rfl
      | true => exact absurd single.capital (by simp [isUpper_of_isLower small])
    simp [wordsFrom, LetterCase.after, isAlphanum_of_isUpper single.capital, large, single.capital]
  rw [begins, wordsFrom_of_isLower _ (List.cons_ne_nil _ _) single.small]
  rfl

/-- Of an identifier of one word both conventions make the word in small letters. -/
theorem IsCapitalized.cases_agree (single : IsCapitalized first rest)
    (spelled : identifier.toList = first :: rest) :
    snakeCase identifier = String.ofList (identifier.toList.map Char.toLower) ∧
      kebabCase identifier = String.ofList (identifier.toList.map Char.toLower) := by
  constructor
  · simp only [snakeCase, spelled, flatMap_snakeLetter single.small, List.map_cons]
  · simp only [kebabCase, spelled, single.wordsFrom_eq, List.map_cons, List.map_nil,
      String.intercalate_singleton]

-- At a run of capitals the conventions differ.
example : snakeCase "HTTPServer" = "h_t_t_p_server" ∧ kebabCase "HTTPServer" = "http-server" :=
  ⟨rfl, rfl⟩

end Single

end Assay.Text
