import Mathlib.Tactic
import ImageRetention.Decoding

/-!
Which values are decoded as texts and as lists of texts.

* `string_eq_ok_iff`: a text is a JSON string that is Unicode text;
* `stringList_eq_ok_iff`: a list of texts is an array of such strings.
-/

namespace ImageRetention

namespace Decoding

lemma string_eq_ok_iff {value : Json} {text : String} :
    string value = .ok text ↔ value = .string (some text) := by
  rcases value with _ | _ | _ | _ | _ | _ | _
  case string found => cases found <;> simp [string]
  all_goals simp [string]

lemma strings_eq_ok_iff {items : List Json} {texts : List String} :
    strings items = .ok texts ↔ items = texts.map fun text => .string (some text) := by
  induction items generalizing texts with
  | nil => cases texts <;> simp [strings]
  | cons item items ih =>
      have hstep : strings (item :: items) = .ok texts ↔
          ∃ text more,
            string item = .ok text ∧ strings items = .ok more ∧ text :: more = texts := by
        rw [strings]
        cases string item <;> cases strings items <;> simp [bind, Except.bind]
      rw [hstep]
      simp only [string_eq_ok_iff, ih]
      cases texts with
      | nil => simp
      | cons text texts => simp

lemma stringList_eq_ok_iff {value : Json} {texts : List String} :
    stringList value = .ok texts ↔
      value = .array (texts.map fun text => .string (some text)) true := by
  rcases value with _ | _ | _ | _ | ⟨items, closed⟩ | _ | _
  case array =>
    have hstep : stringList (.array items closed) = .ok texts ↔
        strings items = .ok texts ∧ closed = true := by
      rw [stringList]
      cases strings items <;> cases closed <;> simp [bind, Except.bind]
    rw [hstep, strings_eq_ok_iff, Json.array.injEq]
  all_goals simp [stringList]

end Decoding

end ImageRetention
