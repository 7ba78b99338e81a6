import Calculator.Proofs.Evaluation.Basic
import Calculator.Proofs.Text.Quoted
import Mathlib.Data.List.Nodup

/-!
# What a message tells

Messages of different kinds begin differently. So the kind of an error can be told from its message, whatever numbers,
characters and texts the message carries. These can be told too, for what stands around them is always the same. Evaluation
gives an error as its message alone, and the message says all that the error does.
-/

namespace Calculator

/-- Texts that differ within their first characters cannot go on to be the same text. -/
theorem index_eq_of_openings {openings : List String} {n i j : Nat} {a b x y : String}
    (hlength : ∀ opening ∈ openings, n ≤ opening.toList.length)
    (hnodup : (openings.map fun opening => opening.toList.take n).Nodup)
    (ha : openings[i]? = some a) (hb : openings[j]? = some b) (h : a ++ x = b ++ y) : i = j := by
  have htake {text : String} (ht : text ∈ openings) (rest : String) :
      (text ++ rest).toList.take n = text.toList.take n := by
    rw [String.toList_append, List.take_append_of_le_length (hlength text ht)]
  have hab : a.toList.take n = b.toList.take n := by
    rw [← htake (List.mem_of_getElem? ha) x, h, htake (List.mem_of_getElem? hb)]
  have hlt : i < (openings.map fun opening => opening.toList.take n).length := by
    rw [List.length_map]
    exact (List.getElem?_eq_some_iff.mp ha).1
  refine (List.getElem?_inj hlt hnodup).mp ?_
  rw [List.getElem?_map, List.getElem?_map, ha, hb, Option.map_some, Option.map_some, hab]

theorem number_eq_of_message {opening closing : String} {n k : Nat}
    (h : opening ++ toString n ++ closing = opening ++ toString k ++ closing) : n = k := by
  have htext := (String.append_right_inj opening).mp ((String.append_left_inj closing).mp h)
  rw [Nat.toString_eq_ofList_toDigits, Nat.toString_eq_ofList_toDigits] at htext
  rw [← Nat.ofDigitChars_ten_toDigits (n := n), String.ofList_injective htext, Nat.ofDigitChars_ten_toDigits]

namespace Malformation

/-- How the messages begin, one for each constructor. -/
def openings : List String :=
  ["entrée vide", "opérateur en tête", "opérande manquant après le dernier opérateur",
    "opérateurs consécutifs (jeton ", "nombres consécutifs (jeton ", "nombre invalide: ", "réduction incomplète ("]

theorem exists_opening (m : Malformation) :
    ∃ opening rest, openings[m.ctorIdx]? = some opening ∧ m.message = opening ++ rest := by
  cases m with
  | empty => exact ⟨_, "", rfl, String.append_empty.symm⟩
  | leadingOperator => exact ⟨_, "", rfl, String.append_empty.symm⟩
  | trailingOperator => exact ⟨_, "", rfl, String.append_empty.symm⟩
  | adjacentOperators position => exact ⟨_, toString position ++ ")", rfl, String.append_assoc⟩
  | adjacentNumbers position => exact ⟨_, toString position ++ ")", rfl, String.append_assoc⟩
  | badLiteral text => exact ⟨_, Text.quoted text, rfl, rfl⟩
  | unreduced remaining => exact ⟨_, toString remaining ++ " jetons restants)", rfl, String.append_assoc⟩

theorem ctorIdx_eq_of_message {m m' : Malformation} (h : m.message = m'.message) : m.ctorIdx = m'.ctorIdx := by
  obtain ⟨a, x, ha, hm⟩ := exists_opening m
  obtain ⟨b, y, hb, hm'⟩ := exists_opening m'
  -- Two of the beginnings share nine characters, and no two share more.
  exact index_eq_of_openings (n := 10) (by decide) (by decide) ha hb (hm ▸ hm' ▸ h)

theorem message_inj {m m' : Malformation} (h : m.message = m'.message) : m = m' := by
  have hkind := ctorIdx_eq_of_message h
  cases m with
  | empty => cases m' with
      | empty => rfl
      | _ => cases hkind
  | leadingOperator => cases m' with
      | leadingOperator => rfl
      | _ => cases hkind
  | trailingOperator => cases m' with
      | trailingOperator => rfl
      | _ => cases hkind
  | adjacentOperators i => cases m' with
      | adjacentOperators j => rw [number_eq_of_message h]
      | _ => cases hkind
  | adjacentNumbers i => cases m' with
      | adjacentNumbers j => rw [number_eq_of_message h]
      | _ => cases hkind
  | badLiteral s => cases m' with
      | badLiteral t => rw [Text.quoted_inj ((String.append_right_inj _).mp h)]
      | _ => cases hkind
  | unreduced n => cases m' with
      | unreduced k => rw [number_eq_of_message h]
      | _ => cases hkind

end Malformation

namespace EvalError

def openings : List String :=
  ["caractère inattendu: '", "division par zéro", "expression invalide: ", "résultat hors limites"]

theorem exists_opening (e : EvalError) :
    ∃ opening rest, openings[e.ctorIdx]? = some opening ∧ e.message = opening ++ rest := by
  cases e with
  | illegalCharacter c position =>
      exact ⟨_, String.singleton c ++ ("' (position " ++ (toString position ++ ")")), rfl,
        String.append_assoc.trans (String.append_assoc.trans String.append_assoc)⟩
  | divisionByZero => exact ⟨_, "", rfl, String.append_empty.symm⟩
  | malformed m => exact ⟨_, m.message, rfl, rfl⟩
  | outOfRange => exact ⟨_, "", rfl, String.append_empty.symm⟩

theorem ctorIdx_eq_of_message {e e' : EvalError} (h : e.message = e'.message) : e.ctorIdx = e'.ctorIdx := by
  obtain ⟨a, x, ha, he⟩ := exists_opening e
  obtain ⟨b, y, hb, he'⟩ := exists_opening e'
  exact index_eq_of_openings (n := 1) (by decide) (by decide) ha hb (he ▸ he' ▸ h)

theorem character_eq_of_message {opening more more' : String} {c d : Char}
    (h : opening ++ String.singleton c ++ more = opening ++ String.singleton d ++ more') : c = d := by
  rw [String.append_assoc, String.append_assoc] at h
  have htext := congrArg String.toList ((String.append_right_inj opening).mp h)
  rw [String.toList_append, String.toList_append, String.toList_singleton, String.toList_singleton] at htext
  exact (List.cons.inj htext).1

theorem message_illegalCharacter (c : Char) (i : Nat) :
    (illegalCharacter c i).message =
      "caractère inattendu: '" ++ String.singleton c ++ ("' (position " ++ toString i ++ ")") :=
  (congrArg (· ++ ")") String.append_assoc).trans String.append_assoc

theorem message_inj {e e' : EvalError} (h : e.message = e'.message) : e = e' := by
  have hkind := ctorIdx_eq_of_message h
  cases e with
  | illegalCharacter c i => cases e' with
      | illegalCharacter d j =>
          rw [message_illegalCharacter, message_illegalCharacter] at h
          obtain rfl := character_eq_of_message h
          rw [number_eq_of_message ((String.append_right_inj _).mp h)]
      | _ => cases hkind
  | divisionByZero => cases e' with
      | divisionByZero => rfl
      | _ => cases hkind
  | malformed m => cases e' with
      | malformed m' => rw [Malformation.message_inj ((String.append_right_inj _).mp h)]
      | _ => cases hkind
  | outOfRange => cases e' with
      | outOfRange => rfl
      | _ => cases hkind

end EvalError

/-- No two errors have one message, whatever characters, numbers and texts they carry. So the message that evaluation gives
is that of one error only, which is the error of the calculation. -/
theorem message_determines_error :
    (∀ e e' : EvalError, e.message = e'.message ↔ e = e') ∧
      ∀ s m, evaluate s = .error m ↔ ∃ e, calculate s = .error e ∧ ∀ e' : EvalError, e'.message = m ↔ e' = e := by
  refine ⟨fun e e' => ⟨EvalError.message_inj, fun h => h ▸ rfl⟩, ?_⟩
  intro s m
  rw [evaluate_eq_error]
  constructor
  · rintro ⟨e, he, rfl⟩
    exact ⟨e, he, fun e' => ⟨EvalError.message_inj, fun h => h ▸ rfl⟩⟩
  · rintro ⟨e, he, hm⟩
    exact ⟨e, he, (hm e).mpr rfl⟩

end Calculator
