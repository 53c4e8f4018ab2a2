import Mathlib.Data.List.Basic
import Mathlib.Data.String.Basic

set_option autoImplicit false

namespace SchwabGateway.Library.Commas

open String

theorem comma_next : Pos.Raw.next "," 0 = ⟨1⟩ := by decide

theorem comma_get : Pos.Raw.get "," 0 = ',' := by decide

theorem comma_end : Pos.Raw.atEnd "," ⟨1⟩ = true := by decide

-- The search of splitOn: behind is done, part is what it is in.
theorem split_aux_comma (behind part ahead : List Char) (found : List String) :
    splitOnAux (ofList (behind ++ part ++ ahead)) "," ⟨utf8Len behind⟩ ⟨utf8Len behind + utf8Len part⟩ 0 found =
      found.reverse ++ (List.splitOnPPrepend (fun c => c == ',') ahead part.reverse).map ofList := by
  induction ahead generalizing behind part found with
  | nil =>
      have ended : Pos.Raw.atEnd (ofList (behind ++ part ++ [])) ⟨utf8Len behind + utf8Len part⟩ = true := by
        rw [atEnd_iff, rawEndPos_ofList, List.append_nil, utf8Len_append]
        exact Nat.le_refl _
      have extract := extract_of_valid behind part []
      rw [splitOnAux, if_pos ended, extract]
      simp
  | cons c ahead ih =>
      have more : ¬ Pos.Raw.atEnd (ofList (behind ++ part ++ c :: ahead)) ⟨utf8Len behind + utf8Len part⟩ = true := by
        have := Char.utf8Size_pos c
        rw [atEnd_iff]
        simp only [rawEndPos_ofList, utf8Len_append, Pos.Raw.mk_le_mk, utf8Len_cons]
        omega
      have get := get_of_valid (behind ++ part) (c :: ahead)
      have next := next_of_valid (behind ++ part) c ahead
      have extract := extract_of_valid behind part (c :: ahead)
      rw [utf8Len_append] at get next
      rw [splitOnAux, if_neg more, get, next, comma_next, comma_get, if_pos comma_end]
      change (if (c == ',') = true then _ else _) = _
      rw [List.splitOnPPrepend_cons_eq_if]
      by_cases comma : (c == ',') = true
      · rw [if_pos comma, if_pos comma]
        have same := beq_iff_eq.mp comma
        subst same
        have back : (⟨utf8Len behind + utf8Len part + Char.utf8Size ','⟩ : Pos.Raw).unoffsetBy ⟨1⟩ =
            ⟨utf8Len behind + utf8Len part⟩ := rfl
        have here : utf8Len (behind ++ part ++ [',']) = utf8Len behind + utf8Len part + Char.utf8Size ',' := by
          rw [utf8Len_append, utf8Len_append]
          rfl
        have later := ih (behind ++ part ++ [',']) [] (ofList part :: found)
        rw [here, List.append_nil, List.append_assoc (behind ++ part)] at later
        rw [back, extract, List.reverse_reverse]
        exact later.trans (by simp [List.splitOnPPrepend_nil_right])
      · rw [if_neg comma, if_neg comma]
        have back : (⟨utf8Len behind + utf8Len part⟩ : Pos.Raw).unoffsetBy 0 = ⟨utf8Len behind + utf8Len part⟩ := rfl
        have here : utf8Len (part ++ [c]) = utf8Len part + c.utf8Size := by
          rw [utf8Len_append, utf8Len_cons, utf8Len_nil, Nat.zero_add]
        have later := ih behind (part ++ [c]) found
        rw [here, ← List.append_assoc behind part, List.append_assoc (behind ++ part), List.reverse_append,
          ← Nat.add_assoc] at later
        rw [back, next]
        exact later

theorem split_on_comma (text : String) : text.splitOn "," = (text.toList.splitOn ',').map ofList := by
  have whole := split_aux_comma [] [] text.toList []
  rw [List.nil_append, List.nil_append, ofList_toList] at whole
  exact whole

theorem split_plain (text : String) (plain : ',' ∉ text.toList) : text.splitOn "," = [text] := by
  rw [split_on_comma, List.splitOn_eq_singleton plain, List.map_singleton, ofList_toList]

theorem split_joined_lists (first : List Char) (rest : List (List Char)) :
    ([','].intercalate (first :: rest)).splitOn ',' = (first :: rest).flatMap (fun part => part.splitOn ',') := by
  induction rest generalizing first with
  | nil => simp
  | cons second others ih =>
      have step : [','].intercalate (first :: second :: others) =
          first ++ ',' :: [','].intercalate (second :: others) := by simp [List.intercalate_cons_cons]
      rw [step, List.splitOn_append_cons_self, ih second, List.flatMap_cons, List.flatMap_cons, List.flatMap_cons]

theorem split_joined (texts : List String) (some_ : texts ≠ []) :
    (",".intercalate texts).splitOn "," = texts.flatMap (fun text => text.splitOn ",") := by
  cases texts with
  | nil => exact absurd rfl some_
  | cons first rest =>
      have parts := split_joined_lists first.toList (rest.map String.toList)
      rw [split_on_comma, toList_intercalate, show ",".toList = [','] from rfl, List.map_cons, parts,
        ← List.map_cons, List.flatMap_map, List.map_flatMap]
      exact congrArg (List.flatMap · (first :: rest)) (funext fun text => (split_on_comma text).symm)

end SchwabGateway.Library.Commas
