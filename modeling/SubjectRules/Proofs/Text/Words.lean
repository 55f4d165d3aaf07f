import Mathlib.Data.List.Chain
import Mathlib.Data.List.DropRight
import SubjectRules.Text.Words

/-!
# Words and the space between them

The words of a text are the pieces between its separators that are not empty.  Separators at the
ends do not change them.  Words joined by single spaces make a text that is evenly spaced and has
just these words; a text that is evenly spaced is its words joined by single spaces.
-/

namespace SubjectRules.Text

variable {separates : Char → Bool} {word text : List Char}

/-! ## Splitting -/

private theorem modifyHead_nil_append (pieces : List (List Char)) :
    pieces.modifyHead ([] ++ ·) = pieces := by
  cases pieces <;> rfl

theorem wordsFrom_eq (separates : Char → Bool) (word text : List Char) :
    wordsFrom separates word text =
      ((text.splitOnP separates).modifyHead (word ++ ·)).filter fun piece => !piece.isEmpty := by
  induction text generalizing word with
  | nil => cases word <;> simp [wordsFrom, flush]
  | cons c rest ih =>
      rw [wordsFrom, List.splitOnP_cons_eq_if_modifyHead]
      split
      · rw [ih, modifyHead_nil_append]
        cases word <;> simp [flush]
      · rw [ih, List.modifyHead_modifyHead]
        simp [Function.comp_def]

theorem words_eq_filter_splitOnP (separates : Char → Bool) (text : List Char) :
    words separates text = (text.splitOnP separates).filter fun piece => !piece.isEmpty := by
  rw [words, wordsFrom_eq, modifyHead_nil_append]

theorem words_append_cons {c : Char} (hc : separates c = true) (front rest : List Char) :
    words separates (front ++ c :: rest) = words separates front ++ words separates rest := by
  simp only [words_eq_filter_splitOnP]
  rw [List.splitOnP_append_cons front rest hc, List.filter_append]

def IsWord (separates : Char → Bool) (word : List Char) : Prop :=
  word ≠ [] ∧ ∀ c ∈ word, separates c = false

theorem words_of_isWord (hword : IsWord separates word) : words separates word = [word] := by
  have hsplit : word.splitOnP separates = [word] :=
    List.splitOnP_eq_singleton fun c hc => by simp [hword.2 c hc]
  rw [words_eq_filter_splitOnP, hsplit]
  simp [hword.1]

private theorem isWord_of_mem_flush {front : List Char}
    (hfront : ∀ c ∈ front, separates c = false) (hmem : word ∈ flush front) :
    IsWord separates word := by
  cases front with
  | nil => cases hmem
  | cons c rest =>
      rw [List.mem_singleton.mp hmem]
      exact ⟨List.cons_ne_nil c rest, hfront⟩

theorem isWord_of_mem_wordsFrom {front : List Char} (hfront : ∀ c ∈ front, separates c = false)
    (hmem : word ∈ wordsFrom separates front text) : IsWord separates word := by
  induction text generalizing front with
  | nil => exact isWord_of_mem_flush hfront hmem
  | cons c rest ih =>
      by_cases hc : separates c = true
      · rw [wordsFrom, if_pos hc, List.mem_append] at hmem
        rcases hmem with hmem | hmem
        · exact isWord_of_mem_flush hfront hmem
        · exact ih (List.forall_mem_nil _) hmem
      · rw [wordsFrom, if_neg hc] at hmem
        refine ih ?_ hmem
        rw [List.forall_mem_append, List.forall_mem_singleton]
        exact ⟨hfront, Bool.eq_false_iff.mpr hc⟩

theorem isWord_of_mem_words (hmem : word ∈ words separates text) : IsWord separates word :=
  isWord_of_mem_wordsFrom (List.forall_mem_nil _) hmem

theorem words_intercalate {space : Char} (hspace : separates space = true)
    {ws : List (List Char)} (hws : ∀ word ∈ ws, IsWord separates word) :
    words separates ([space].intercalate ws) = ws := by
  induction ws with
  | nil => rfl
  | cons word rest ih =>
      obtain ⟨hword, hrest⟩ := List.forall_mem_cons.mp hws
      cases rest with
      | nil => rw [List.intercalate_singleton, words_of_isWord hword]
      | cons next others =>
          rw [List.intercalate_cons_cons, List.append_assoc, List.singleton_append,
            words_append_cons hspace, words_of_isWord hword, ih hrest, List.singleton_append]

/-! ## Trimming -/

theorem words_dropWhile (separates : Char → Bool) (text : List Char) :
    words separates (text.dropWhile separates) = words separates text := by
  induction text with
  | nil => rfl
  | cons c rest ih =>
      by_cases hc : separates c = true
      · rw [List.dropWhile_cons_of_pos hc, ih]
        exact (words_append_cons hc [] rest).symm
      · rw [List.dropWhile_cons_of_neg hc]

theorem words_rdropWhile (separates : Char → Bool) (text : List Char) :
    words separates (text.rdropWhile separates) = words separates text := by
  induction text using List.reverseRecOn with
  | nil => rfl
  | append_singleton front c ih =>
      by_cases hc : separates c = true
      · rw [List.rdropWhile_concat_pos _ _ _ hc, ih, words_append_cons hc]
        exact (List.append_nil _).symm
      · rw [List.rdropWhile_concat_neg _ _ _ hc]

theorem words_trimmed (separates : Char → Bool) (text : List Char) :
    words separates (trimmed separates text) = words separates text :=
  (words_rdropWhile separates _).trans (words_dropWhile separates text)

structure Bare (separates : Char → Bool) (text : List Char) : Prop where
  head : ∀ c ∈ text.head?, separates c = false
  last : ∀ c ∈ text.getLast?, separates c = false

theorem bare_trimmed (separates : Char → Bool) (text : List Char) :
    Bare separates (trimmed separates text) where
  head := by
    intro c hc
    -- what is left at the end starts where the front was dropped
    have hfront : c ∈ (text.dropWhile separates).head? := by
      have hkept : trimmed separates text <+: text.dropWhile separates :=
        List.rdropWhile_prefix separates _
      obtain ⟨rear, hrear⟩ := hkept
      rw [← hrear, List.head?_append, Option.mem_def.mp hc]
      rfl
    have hdrop := List.head?_dropWhile_not separates text
    rw [Option.mem_def.mp hfront] at hdrop
    exact hdrop
  last := by
    intro c hc
    obtain ⟨hne, rfl⟩ := List.mem_getLast?_eq_getLast hc
    exact Bool.eq_false_iff.mpr (List.rdropWhile_last_not separates _ hne)

theorem trimmed_eq_self (h : Bare separates text) : trimmed separates text = text := by
  have hfront : text.dropWhile separates = text := by
    cases text with
    | nil => rfl
    | cons c rest => exact List.dropWhile_cons_of_neg (by simp [h.head c rfl])
  rw [trimmed, hfront]
  refine List.rdropWhile_eq_self_iff.mpr fun hne => ?_
  exact Bool.eq_false_iff.mp (h.last _ (List.getLast?_eq_some_getLast hne))

theorem trimmed_trimmed (separates : Char → Bool) (text : List Char) :
    trimmed separates (trimmed separates text) = trimmed separates text :=
  trimmed_eq_self (bare_trimmed separates text)

/-! ## Even spacing -/

/-- Separators stand between words only: each is a space, and no two are neighbours. -/
structure Spaced (separates : Char → Bool) (text : List Char) : Prop
    extends Bare separates text where
  spaces : ∀ c ∈ text, separates c = true → c = ' '
  apart : text.IsChain fun c d => separates c = false ∨ separates d = false

theorem IsWord.spaced (hword : IsWord separates word) : Spaced separates word where
  head := fun c hc => hword.2 c (List.mem_of_mem_head? hc)
  last := fun c hc => hword.2 c (List.mem_of_mem_getLast? hc)
  spaces := by
    intro c hc hseparates
    rw [hword.2 c hc] at hseparates
    cases hseparates
  apart := List.Pairwise.isChain (List.pairwise_of_forall_mem_list fun c hc _ _ =>
    .inl (hword.2 c hc))

theorem IsWord.spaced_append (hword : IsWord separates word) (hne : text ≠ [])
    (htext : Spaced separates text) : Spaced separates (word ++ ' ' :: text) where
  head := by
    intro c hc
    rw [List.head?_append_of_ne_nil _ hword.1] at hc
    exact hword.spaced.head c hc
  last := by
    intro c hc
    rw [List.append_cons, List.getLast?_append_of_ne_nil _ hne] at hc
    exact htext.last c hc
  spaces := by
    intro c hc hseparates
    rcases List.mem_append.mp hc with hc | hc
    · exact hword.spaced.spaces c hc hseparates
    · rcases List.mem_cons.mp hc with rfl | hc
      · rfl
      · exact htext.spaces c hc hseparates
  apart := by
    refine hword.spaced.apart.append (htext.apart.cons fun d hd => .inr (htext.head d hd)) ?_
    intro c hc d _
    exact .inl (hword.spaced.last c hc)

theorem spaced_intercalate {ws : List (List Char)} (hws : ∀ word ∈ ws, IsWord separates word) :
    Spaced separates ([' '].intercalate ws) := by
  induction ws with
  | nil => exact ⟨⟨nofun, nofun⟩, nofun, .nil⟩
  | cons word rest ih =>
      obtain ⟨hword, hrest⟩ := List.forall_mem_cons.mp hws
      cases rest with
      | nil =>
          rw [List.intercalate_singleton]
          exact hword.spaced
      | cons next others =>
          rw [List.intercalate_cons_cons, List.append_assoc, List.singleton_append]
          refine hword.spaced_append (fun hnil => ?_) (ih hrest)
          have hnext := (hrest next List.mem_cons_self).1
          cases others with
          | nil => exact hnext (List.intercalate_singleton.symm.trans hnil)
          | cons other more => simp at hnil

private theorem intercalate_flush_append {rest : List Char} (hword : word ≠ []) (hne : rest ≠ [])
    (hrest : [' '].intercalate (words separates rest) = rest) :
    [' '].intercalate (flush word ++ words separates rest) = word ++ ' ' :: rest := by
  have hwords : words separates rest ≠ [] := by
    intro hnil
    rw [hnil] at hrest
    exact hne hrest.symm
  have hflush : flush word = [word] := if_neg (by simp [hword])
  rw [hflush, List.singleton_append, List.intercalate_cons_of_ne_nil hwords, hrest,
    List.append_assoc, List.singleton_append]

theorem intercalate_wordsFrom (hhead : word = [] → ∀ c ∈ text.head?, separates c = false)
    (hlast : ∀ c ∈ text.getLast?, separates c = false)
    (hspaces : ∀ c ∈ text, separates c = true → c = ' ')
    (hapart : text.IsChain fun c d => separates c = false ∨ separates d = false) :
    [' '].intercalate (wordsFrom separates word text) = word ++ text := by
  induction text generalizing word with
  | nil => cases word <;> simp [wordsFrom, flush]
  | cons c rest ih =>
      obtain ⟨hnext, hrest⟩ := List.isChain_cons.mp hapart
      have hspacesRest : ∀ d ∈ rest, separates d = true → d = ' ' := fun d hd =>
        hspaces d (List.mem_cons_of_mem c hd)
      have hlastRest : ∀ d ∈ rest.getLast?, separates d = false := by
        intro d hd
        refine hlast d ?_
        cases rest with
        | nil => cases hd
        | cons next others => rwa [List.getLast?_cons_cons]
      by_cases hc : separates c = true
      · obtain rfl := hspaces c List.mem_cons_self hc
        have hword : word ≠ [] := fun hnil => by simp [hhead hnil ' ' rfl] at hc
        have hne : rest ≠ [] := by
          rintro rfl
          simp [hlast ' ' rfl] at hc
        have hbelow : [' '].intercalate (words separates rest) = rest :=
          ih (fun _ d hd => (hnext d hd).resolve_left (by simp [hc])) hlastRest hspacesRest hrest
        rw [wordsFrom, if_pos hc]
        exact intercalate_flush_append hword hne hbelow
      · have hword : word ++ [c] ≠ [] := by simp
        rw [wordsFrom, if_neg hc, ih (absurd · hword) hlastRest hspacesRest hrest,
          List.append_assoc, List.singleton_append]

theorem Spaced.intercalate_words (htext : Spaced separates text) :
    [' '].intercalate (words separates text) = text :=
  intercalate_wordsFrom (fun _ => htext.head) htext.last htext.spaces htext.apart

end SubjectRules.Text
