import SubjectRules.Proofs.Text.Words
import SubjectRules.Proofs.Transformer.Output
import SubjectRules.Transformer.Conversion

/-!
# White space in texts

Collapsing the white space of a text keeps its words and spaces them evenly.  Texts that are
evenly spaced are left as they are, so collapsing twice is collapsing once.  Trimming before it
or after it makes no difference.  Of the characters that count as white space, only that the space
is one of them matters.
-/

namespace SubjectRules

/-! ## Texts -/

namespace Text

theorem words_trim (s : String) :
    words isWhiteSpace (trim s).toList = words isWhiteSpace s.toList := by
  rw [trim, String.toList_ofList, words_trimmed]

theorem trim_eq_self {s : String} (h : Bare isWhiteSpace s.toList) : trim s = s := by
  rw [trim, trimmed_eq_self h, String.ofList_toList]

theorem trim_trim (s : String) : trim (trim s) = trim s := by
  rw [trim, trim, String.toList_ofList, trimmed_trimmed]

theorem collapseWhiteSpace_congr {s t : String}
    (h : words isWhiteSpace s.toList = words isWhiteSpace t.toList) :
    collapseWhiteSpace s = collapseWhiteSpace t := by
  rw [collapseWhiteSpace, h, collapseWhiteSpace]

theorem words_collapseWhiteSpace (s : String) :
    words isWhiteSpace (collapseWhiteSpace s).toList = words isWhiteSpace s.toList := by
  rw [collapseWhiteSpace, String.toList_ofList]
  exact words_intercalate isWhiteSpace_space fun _ => isWord_of_mem_words

theorem spaced_collapseWhiteSpace (s : String) :
    Spaced isWhiteSpace (collapseWhiteSpace s).toList := by
  rw [collapseWhiteSpace, String.toList_ofList]
  exact spaced_intercalate fun _ => isWord_of_mem_words

theorem collapseWhiteSpace_eq_self_iff {s : String} :
    collapseWhiteSpace s = s ↔ Spaced isWhiteSpace s.toList := by
  constructor
  · intro h
    rw [← h]
    exact spaced_collapseWhiteSpace s
  · intro h
    rw [collapseWhiteSpace, h.intercalate_words, String.ofList_toList]

end Text

/-! ## Conversions -/

namespace Conversion

theorem onText_of_string?_eq_none {value : Json} (h : value.string? = none)
    (f : String → String) : onText f value = value := by
  cases value with
  | str s => cases h
  | _ => rfl

theorem map_onText_map_onText {f g h : String → String} (hfg : ∀ s, f (g s) = h s)
    (value : Option Json) :
    (value.map (onText g)).map (onText f) = value.map (onText h) := by
  rw [Option.map_map]
  refine congrArg (value.map ·) (funext fun found => ?_)
  cases found with
  | str s => exact congrArg Json.str (hfg s)
  | _ => rfl

theorem apply_transformer_of_eq_self {ε : Type} {conversion : Conversion} {value : Option Json}
    (h : conversion.apply value = value) :
    (conversion.transformer : Transformer ε).apply value = pure (.now value) :=
  congrArg (fun made => pure (Answer.now made)) h

/-- Collapsing makes of every text one that is evenly spaced and has the same words in the same
order, and leaves alone just the texts that are evenly spaced already.  Collapsing twice comes to
collapsing once, trimming before or after it changes nothing, and trimming twice comes to trimming
once.  Both leave missing values, null and all other values that are no texts as they are. -/
theorem collapseWhitespace_normalizes {ε : Type} :
    let trim : Transformer ε := Conversion.trim.transformer
    let collapse : Transformer ε := Conversion.collapseWhitespace.transformer
    (∀ s : String, ∃ collapsed : String,
        collapse.output (some (.str s)) = some (.str collapsed) ∧
          Text.Spaced Text.isWhiteSpace collapsed.toList ∧
          Text.words Text.isWhiteSpace collapsed.toList =
            Text.words Text.isWhiteSpace s.toList ∧
          (collapsed = s ↔ Text.Spaced Text.isWhiteSpace s.toList)) ∧
      (∀ value, collapse.output (collapse.output value) = collapse.output value) ∧
      (∀ value, collapse.output (trim.output value) = collapse.output value) ∧
      (∀ value, trim.output (collapse.output value) = collapse.output value) ∧
      (∀ value, trim.output (trim.output value) = trim.output value) ∧
      ∀ value : Option Json, value.bind Json.string? = none →
        collapse.apply value = pure (.now value) ∧ trim.apply value = pure (.now value) := by
  intro trim collapse
  refine ⟨?_, ?_, ?_, ?_, ?_, ?_⟩
  · intro s
    exact ⟨Text.collapseWhiteSpace s, rfl, Text.spaced_collapseWhiteSpace s,
      Text.words_collapseWhiteSpace s, Text.collapseWhiteSpace_eq_self_iff⟩
  · exact map_onText_map_onText fun s =>
      Text.collapseWhiteSpace_congr (Text.words_collapseWhiteSpace s)
  · exact map_onText_map_onText fun s => Text.collapseWhiteSpace_congr (Text.words_trim s)
  · exact map_onText_map_onText fun s =>
      Text.trim_eq_self (Text.spaced_collapseWhiteSpace s).toBare
  · exact map_onText_map_onText Text.trim_trim
  · intro value hvalue
    have hsame : ∀ f : String → String, value.map (onText f) = value := by
      intro f
      cases value with
      | none => rfl
      | some found => exact congrArg some (onText_of_string?_eq_none hvalue f)
    exact ⟨apply_transformer_of_eq_self (hsame Text.collapseWhiteSpace),
      apply_transformer_of_eq_self (hsame Text.trim)⟩

end Conversion

end SubjectRules
