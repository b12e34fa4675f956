import ScriptLib.Proofs.Intrinsic.Failure

/-!
# One frame per call

An error records the calls of the function table that it passed through. The functions
themselves fail with no frame (`standard_bare`), and so does the binding of a call's
arguments. The table adds the name it was called by, once, so every failed call carries
exactly that one frame (`callSync_error_stack`, `call_error_stack`,
`callMethod_error_stack`).
-/

namespace ScriptLib

/-- Binding the arguments of a call fails with no frame. -/
theorem bare_bind (function : String) (params : List Param) (positional : List Value)
    (named : List (String × Value)) : Bare (bind function params positional named) := by
  have hfill : ∀ slots named, Bare (fillNamed function params slots named) := by
    intro slots named
    induction named generalizing slots with
    | nil => exact bare_ok _
    | cons n rest ih =>
      unfold fillNamed
      split
      · exact bare_error _
      · split
        · exact bare_error _
        · exact ih _
  unfold bind
  split
  · exact bare_throw_bind _ _
  · refine (hfill _ _).bind fun slots => Bare.mapM ?_ _
    rintro ⟨_ | v, p⟩
    · dsimp only
      split
      · exact bare_ok _
      · exact bare_error _
    · exact bare_ok _

/-! ## Calls through the function table -/

namespace Registry

open Act Intrinsic

theorem bare_invoke {f : Builtin} (hf : ∀ args, (f.run args).Bare) (positional : List Value)
    (named : List (String × Value)) : (invoke f positional named).Bare :=
  (bare_ofResult (bare_bind _ _ _ _)).bind hf

/-- The frame a call adds is its only one, when the action it wraps fails with none. -/
theorem framed_error_stack {α : Type} {a : Act α} (ha : a.Bare) {frame : String} {w w' : World}
    {e : Error} (hr : (framed frame a).run.run w = (.error e, w')) : e.stack = [frame] := by
  rw [run_framed] at hr
  rcases hrun : a.run.run w with ⟨_ | x, w₁⟩ <;> simp only [hrun] at hr
  · cases hr
    simp [Error.pushFrame, ha w _ _ hrun]
  · cases hr

/-- A failed call that must not suspend carries one frame: the name it was called by. -/
theorem callSync_error_stack {name : String} {positional : List Value}
    {named : List (String × Value)} {w w' : World} {e : Error}
    (hr : (callSync name positional named).run.run w = (.error e, w')) : e.stack = [name] := by
  obtain ⟨body, hcall, hbody⟩ := callSync_body (P := Act.Bare) bare_fail
    fun f hf => bare_invoke (standard_bare f (mem_standard_of_lookup hf)) positional named
  rw [hcall] at hr
  exact framed_error_stack hbody hr

theorem call_error_stack {name : String} {positional : List Value}
    {named : List (String × Value)} {w w' : World} {e : Error}
    (hr : (call name positional named).run.run w = (.error e, w')) : e.stack = [name] := by
  obtain ⟨body, hcall, hbody⟩ := call_body (P := Act.Bare) bare_fail
    fun f hf => bare_invoke (standard_bare f (mem_standard_of_lookup hf)) positional named
  rw [hcall] at hr
  exact framed_error_stack hbody hr

theorem callMethod_error_stack {receiver : Value} {name : String} {positional : List Value}
    {named : List (String × Value)} {w w' : World} {e : Error}
    (hr : (callMethod receiver name positional named).run.run w = (.error e, w')) :
    e.stack = [name] := by
  obtain ⟨body, hcall, hbody⟩ := callMethod_body (P := Act.Bare) receiver bare_fail
    fun f _ _ _ hf => bare_invoke (standard_bare f (mem_standard_of_lookup hf)) _ named
  rw [hcall] at hr
  exact framed_error_stack hbody hr

end Registry

end ScriptLib
