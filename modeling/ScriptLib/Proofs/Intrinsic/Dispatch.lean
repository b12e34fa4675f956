import ScriptLib.Proofs.Intrinsic.Frames

/-!
# Three ways into the function table

A standard function is reached by a call that may suspend, by a call that must not, or as
a method of a receiver. The three differ only where they must. Only `wait` and `yield`
suspend, so for every other name the two calls are one action: the same answer or the same
error, and the same changes to the world; the call that must not suspend refuses those two
whatever the arguments, before binding them. A method found in the table of its receiver's
kind is the standard function of its name, called with the receiver as the first
positional argument; any other method fails as unknown, under the name of the receiver's
kind. Every failure carries one frame, the name called (`Frames`).
-/

namespace ScriptLib

namespace Registry

open Act

theorem name_of_lookup {name : String} {f : Builtin} (h : lookup name = some f) :
    f.name = name := by
  simpa using List.find?_some h

/-- Only `wait` and `yield` may suspend. -/
theorem standard_suspends : ∀ f ∈ standard, f.suspends = true →
    f.name = "wait" ∨ f.name = "yield" := by
  decide

/-- Every method name of the three tables names a standard function. -/
theorem lookup_isSome_of_method : ∀ n ∈ listMethods ++ mapMethods ++ stringMethods,
    (lookup n).isSome := by
  decide

/-- A method of any receiver is in one of the three tables. -/
theorem mem_methods_of_methodsOf {receiver : Value} {name : String} {ms : List String}
    (hms : methodsOf receiver = some ms) (hn : name ∈ ms) :
    name ∈ listMethods ++ mapMethods ++ stringMethods := by
  cases receiver <;> simp only [methodsOf, reduceCtorEq, Option.some.injEq] at hms <;>
    subst hms <;> simp [hn]

theorem lookup_isSome_of_methodsOf {receiver : Value} {name : String} {ms : List String}
    (hms : methodsOf receiver = some ms) (hn : name ∈ ms) : (lookup name).isSome :=
  lookup_isSome_of_method name (mem_methods_of_methodsOf hms hn)

/-- The table of a receiver's kind finds a method exactly when it holds its name, and
then finds the standard function of that name. -/
theorem found_method {receiver : Value} {name : String} :
    ((methodsOf receiver).bind fun ms => if ms.contains name then lookup name else none) =
      if ∃ ms, methodsOf receiver = some ms ∧ name ∈ ms then lookup name else none := by
  cases hr : methodsOf receiver with
  | none => simp
  | some ms => by_cases hn : name ∈ ms <;> simp [hn]

/-- Away from `wait` and `yield`, a call that may suspend is the call that must not. -/
theorem call_eq_callSync {name : String} (hw : name ≠ "wait") (hy : name ≠ "yield")
    (positional : List Value) (named : List (String × Value)) :
    call name positional named = callSync name positional named := by
  unfold call callSync
  congr 1
  cases hf : lookup name with
  | none => rfl
  | some f =>
    -- the function found has the name called, so it is neither `wait` nor `yield`
    have hname := name_of_lookup hf
    have hsync : f.suspends = false := by
      cases hs : f.suspends
      · rfl
      · rcases standard_suspends f (mem_standard_of_lookup hf) hs with h | h
        · exact absurd (hname.symm.trans h) hw
        · exact absurd (hname.symm.trans h) hy
    simp [hsync]

/-- `wait` and `yield` cannot be called where nothing may suspend: the call fails before
its arguments are bound, with its own name as the only frame, and changes nothing. -/
theorem callSync_suspending {name : String} (hn : name = "wait" ∨ name = "yield")
    (positional : List Value) (named : List (String × Value)) (w : World) :
    (callSync name positional named).run.run w = (.error ⟨.wouldSuspend name, [name]⟩, w) := by
  rcases hn with rfl | rfl <;> rfl

theorem callMethod_eq_callSync {receiver : Value} {name : String}
    (hm : ∃ ms, methodsOf receiver = some ms ∧ name ∈ ms) (positional : List Value)
    (named : List (String × Value)) :
    callMethod receiver name positional named = callSync name (receiver :: positional) named := by
  obtain ⟨ms, hms, hn⟩ := hm
  unfold callMethod callSync
  rw [found_method, if_pos ⟨ms, hms, hn⟩]
  congr 1
  cases hf : lookup name with
  | none =>
    have hsome := lookup_isSome_of_methodsOf hms hn
    rw [hf] at hsome
    cases hsome
  | some f => rfl

theorem callMethod_unknown {receiver : Value} {name : String}
    (hm : ¬∃ ms, methodsOf receiver = some ms ∧ name ∈ ms) (positional : List Value)
    (named : List (String × Value)) (w : World) :
    (callMethod receiver name positional named).run.run w =
      (.error ⟨.unknownFunction s!"{receiver.kind.name}.{name}", [name]⟩, w) := by
  unfold callMethod
  rw [found_method, if_neg hm]
  rfl

/-- The three ways into the table agree. A call that may suspend and one that must not
are the same action for every name but `wait` and `yield`, and fail with the name as their
one frame; the second refuses `wait` and `yield` outright. A method in the table of the
receiver's kind is the call with the receiver first; any other fails as unknown under the
kind's name. -/
theorem entry_points_agree (name : String) (receiver : Value) (positional : List Value)
    (named : List (String × Value)) :
    (name ≠ "wait" → name ≠ "yield" →
      call name positional named = callSync name positional named ∧
      ∀ w e w', (callSync name positional named).run.run w = (.error e, w') →
        e.stack = [name]) ∧
    (name = "wait" ∨ name = "yield" → ∀ w,
      (callSync name positional named).run.run w = (.error ⟨.wouldSuspend name, [name]⟩, w)) ∧
    ((∃ ms, methodsOf receiver = some ms ∧ name ∈ ms) →
      callMethod receiver name positional named =
        callSync name (receiver :: positional) named) ∧
    ((¬∃ ms, methodsOf receiver = some ms ∧ name ∈ ms) → ∀ w,
      (callMethod receiver name positional named).run.run w =
        (.error ⟨.unknownFunction s!"{receiver.kind.name}.{name}", [name]⟩, w)) :=
  ⟨fun hw hy => ⟨call_eq_callSync hw hy positional named, fun _ _ _ => callSync_error_stack⟩,
    fun hn => callSync_suspending hn positional named,
    fun hm => callMethod_eq_callSync hm positional named,
    fun hm => callMethod_unknown hm positional named⟩

/-- `len` of a text is the same through every entry: as a method of the text, and by
either call with the text as its argument. -/
theorem len_through_every_entry :
    callMethod (.str "abc") "len" [] [] = callSync "len" [.str "abc"] [] ∧
      call "len" [.str "abc"] [] = callSync "len" [.str "abc"] [] :=
  ⟨(entry_points_agree "len" (.str "abc") [] []).2.2.1 ⟨stringMethods, rfl, by decide⟩,
    ((entry_points_agree "len" (.str "abc") [.str "abc"] []).1 (by decide) (by decide)).1⟩

end Registry

end ScriptLib
