import SubjectRules.FailureTree

/-!
# The wire form of failures

A failure is written out as it is made a value: the same pairs in the same order.  The wire
form tells any two failures apart, and the codes are read back off it.
-/

namespace SubjectRules

/-! ## Writing out and making a value -/

theorem Violation.write_json (v : Violation) : v.write .json = v.toJson := by
  obtain ⟨code, extras⟩ := v
  cases extras <;> rfl

theorem Failure.write_json (f : Failure) : f.write .json = f.toJson := by
  cases f with
  | one v => exact v.write_json
  | many vs => exact congrArg Json.arr (List.map_congr_left fun v _ => v.write_json)

theorem Json.itemTexts_eq_map (items : List Json) : itemTexts items = items.map text := by
  induction items with
  | nil => rw [itemTexts, List.map_nil]
  | cons item rest ih => rw [itemTexts, List.map_cons, ih]

theorem Json.text_arr (items : List Json) :
    (Json.arr items).text = Writer.text.list (items.map text) := by
  rw [text, itemTexts_eq_map]
  rfl

theorem Violation.text_toJson (v : Violation) : v.toJson.text = v.text := by
  obtain ⟨code, extras⟩ := v
  rw [toJson, Json.text_arr]
  cases extras <;> simp [text, write, Json.ofOption, Json.text, Writer.text]

theorem Failure.text_toJson (f : Failure) : f.toJson.text = f.text := by
  cases f with
  | one v => exact v.text_toJson
  | many vs =>
      rw [toJson, Json.text_arr, List.map_map]
      exact congrArg Writer.text.list (List.map_congr_left fun v _ => v.text_toJson)

/-! ## Telling failures apart -/

theorem Violation.toJson_injective : Function.Injective Violation.toJson := by
  rintro ⟨code, extras⟩ ⟨other, others⟩ h
  cases extras <;> cases others <;> simp_all [toJson, Json.ofOption]

theorem Failure.toJson_one_ne_many (v : Violation) (vs : List Violation) :
    (Failure.one v).toJson ≠ (Failure.many vs).toJson := by
  cases vs <;> simp [toJson, Violation.toJson]

theorem Failure.toJson_injective : Function.Injective Failure.toJson := by
  intro f g h
  cases f with
  | one v =>
      cases g with
      | one w => exact congrArg one (Violation.toJson_injective h)
      | many ws => exact absurd h (toJson_one_ne_many v ws)
  | many vs =>
      cases g with
      | one w => exact absurd h.symm (toJson_one_ne_many w vs)
      | many ws =>
          have hpairs : vs.map Violation.toJson = ws.map Violation.toJson := Json.arr.inj h
          exact congrArg many ((List.map_inj_right Violation.toJson_injective).mp hpairs)

/-! ## Reading the codes -/

theorem wireCodesOf_eq_flatMap (items : List Json) :
    wireCodesOf items = items.flatMap wireCodes := by
  induction items with
  | nil => rw [wireCodesOf, List.flatMap_nil]
  | cons item rest ih => rw [wireCodesOf, List.flatMap_cons, ih]

theorem Violation.wireCodes_toJson (v : Violation) : wireCodes v.toJson = [v.code] := by
  rw [toJson, wireCodes]

theorem Failure.wireCodes_toJson (f : Failure) : wireCodes f.toJson = f.codes := by
  cases f with
  | one v => exact v.wireCodes_toJson
  | many vs =>
      have hpairs : wireCodes (.arr (vs.map Violation.toJson)) =
          wireCodesOf (vs.map Violation.toJson) := by
        -- of two pairs the first is no string, so they are not taken for a pair
        rw [wireCodes]
        rintro code other hpair
        cases vs <;> simp [Violation.toJson] at hpair
      rw [toJson, hpairs, wireCodesOf_eq_flatMap, List.flatMap_map, codes, violations,
        List.map_eq_flatMap]
      simp only [Violation.wireCodes_toJson]

/-- Writing a failure out and making it a value give the same: the same value, and the same text.
Failures with the same wire form are the same, one violation is no sequence, and no details are not
the same as empty ones.  The codes read off the wire form are those of the violations, in order. -/
theorem Failure.wireForm_faithful :
    (∀ f : Failure, f.write .json = f.toJson ∧ f.text = f.toJson.text ∧
        wireCodes f.toJson = f.violations.map Violation.code) ∧
      Function.Injective Failure.toJson ∧
      (∀ v vs, (Failure.one v).toJson ≠ (Failure.many vs).toJson) ∧
      ∀ code, (Failure.one ⟨code, none⟩).toJson ≠ (Failure.one ⟨code, some []⟩).toJson := by
  refine ⟨fun f => ⟨f.write_json, f.text_toJson.symm, f.wireCodes_toJson⟩, toJson_injective,
    toJson_one_ne_many, fun code h => ?_⟩
  cases toJson_injective h

end SubjectRules
