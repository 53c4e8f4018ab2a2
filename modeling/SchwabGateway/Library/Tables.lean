import Mathlib.Logic.Function.Basic

set_option autoImplicit false

namespace SchwabGateway.Library

-- A table has one record for every process; a step writes the record of one.
variable {ι β γ : Type} [DecidableEq ι] (table : ι → β) (field : β → γ) (id : ι) (value : β)

theorem field_update :
    (fun other => field (Function.update table id value other)) =
      Function.update (fun other => field (table other)) id (field value) :=
  Function.comp_update field table id value

theorem field_kept (same : field value = field (table id)) :
    (fun other => field (Function.update table id value other)) = fun other => field (table other) := by
  rw [field_update, same]
  exact Function.update_eq_self id _

theorem entry_kept (same : field value = field (table id)) (other : ι) :
    field (Function.update table id value other) = field (table other) :=
  congrFun (field_kept table field id value same) other

end SchwabGateway.Library
