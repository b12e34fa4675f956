import ScriptLib.Proofs.Intrinsic.Dispatch
import ScriptLib.Proofs.Random.Streams

/-!
# Seeded draws through the function table

`rnd` with a truthy seed draws from the stream of the seed's canonical text, and from
nothing else; no other standard function touches the seeded streams (`standard_keepsSeeds`),
and `rnd` without a seed only advances the unseeded source. So along any run of calls of
the table, by any of its three entries, from a world with no stream yet, the registry tracks
the seed texts drawn so far (`tracks_runCalls`), and the `j`-th call of `rnd` with seed text
`σ` answers the `j`-th draw of the stream of `σ`, leaving the unseeded source as it was
(`seeded_draws_follow_their_streams`). Seeds with one canonical text, such as `1` and `"1"`,
share a stream.
-/

namespace ScriptLib

namespace Intrinsic

open Act

/-! ## `rnd` -/

/-- A truthy seed draws from the stream of its canonical text and changes nothing else;
any other seed draws from the unseeded source and changes nothing else. -/
theorem run_rnd (args : List Value) (w : World) :
    (rnd args).run.run w =
      if w.heap.truthy (argAt args 0) then
        (.ok (.num (w.seeds.next (w.heap.display (argAt args 0))).1),
          { w with seeds := (w.seeds.next (w.heap.display (argAt args 0))).2 })
      else (.ok (.num w.source.nextUnit.1), { w with source := w.source.nextUnit.2 }) := by
  cases h : w.heap.truthy (argAt args 0) <;>
    show (if w.heap.truthy (argAt args 0) = true then _ else _ : Act Value).run.run w = _ <;>
    rw [h] <;> rfl

end Intrinsic

namespace Registry

open Act Intrinsic

/-! ## Calls through the table -/

/-- A frame is added to an error only: the world a call leaves is the one its body left. -/
theorem framed_world {α : Type} (a : Act α) (frame : String) (w : World) :
    ((framed frame a).run.run w).2 = (a.run.run w).2 := by
  rw [run_framed]
  rcases a.run.run w with ⟨_ | x, w₁⟩ <;> rfl

theorem keepsSeeds_framed {α : Type} {a : Act α} (ha : a.KeepsSeeds) (frame : String) :
    (framed frame a).KeepsSeeds := by
  intro w r w' hr
  have hw : w' = (a.run.run w).2 := by rw [← framed_world a frame w, hr]
  exact ha w _ _ (Prod.ext rfl hw.symm)

theorem keepsSeeds_invoke {f : Builtin} (hf : ∀ args, (f.run args).KeepsSeeds)
    (positional : List Value) (named : List (String × Value)) :
    (invoke f positional named).KeepsSeeds :=
  (keeps_ofResult _).keepsSeeds.bind hf

/-- The function a name finds keeps the streams unless the name is `rnd`. -/
theorem keepsSeeds_found {name : String} {f : Builtin} (hf : lookup name = some f)
    (hn : name ≠ "rnd") (positional : List Value) (named : List (String × Value)) :
    (invoke f positional named).KeepsSeeds :=
  keepsSeeds_invoke (standard_keepsSeeds f (mem_standard_of_lookup hf)
    (by rw [name_of_lookup hf]; exact hn)) positional named

theorem keepsSeeds_callSync {name : String} (hn : name ≠ "rnd") (positional : List Value)
    (named : List (String × Value)) : (callSync name positional named).KeepsSeeds := by
  obtain ⟨body, hcall, hbody⟩ := callSync_body (P := Act.KeepsSeeds)
    (fun c => (keeps_fail c).keepsSeeds) fun _ hf => keepsSeeds_found hf hn positional named
  rw [hcall]
  exact keepsSeeds_framed hbody name

theorem keepsSeeds_call {name : String} (hn : name ≠ "rnd") (positional : List Value)
    (named : List (String × Value)) : (call name positional named).KeepsSeeds := by
  obtain ⟨body, hcall, hbody⟩ := call_body (P := Act.KeepsSeeds)
    (fun c => (keeps_fail c).keepsSeeds) fun _ hf => keepsSeeds_found hf hn positional named
  rw [hcall]
  exact keepsSeeds_framed hbody name

/-- `rnd` is no method of any kind. -/
theorem rnd_not_method : "rnd" ∉ listMethods ++ mapMethods ++ stringMethods := by
  decide

/-- No method touches the seeded streams: a method's name is in one of the three tables, and
`rnd` is in none. -/
theorem keepsSeeds_callMethod (receiver : Value) (name : String) (positional : List Value)
    (named : List (String × Value)) : (callMethod receiver name positional named).KeepsSeeds := by
  have hfound : ∀ f ms, methodsOf receiver = some ms → name ∈ ms → lookup name = some f →
      (invoke f (receiver :: positional) named).KeepsSeeds := by
    intro f ms hms hn hf
    refine keepsSeeds_found hf ?_ _ named
    rintro rfl
    exact rnd_not_method (mem_methods_of_methodsOf hms hn)
  obtain ⟨body, hcall, hbody⟩ := callMethod_body (P := Act.KeepsSeeds) receiver
    (fun c => (keeps_fail c).keepsSeeds) hfound
  rw [hcall]
  exact keepsSeeds_framed hbody name

/-- The canonical text of the seed a call of `rnd` draws with: its arguments bind to its one
optional parameter, and the seed is truthy. -/
def seedText (h : Heap) (positional : List Value) (named : List (String × Value)) :
    Option String :=
  match ScriptLib.bind "rnd" [opt "seed"] positional named with
  | .ok args => if h.truthy (argAt args 0) then some (h.display (argAt args 0)) else none
  | .error _ => none

theorem callSync_rnd (positional : List Value) (named : List (String × Value)) :
    callSync "rnd" positional named =
      framed "rnd" (Act.ofResult (ScriptLib.bind "rnd" [opt "seed"] positional named) >>= rnd) :=
  rfl

/-- A call of `rnd` with a truthy seed answers the next draw of the seed text's stream, and
only advances that stream. -/
theorem run_callSync_rnd_seeded {positional : List Value} {named : List (String × Value)}
    {w : World} {σ : String} (h : seedText w.heap positional named = some σ) :
    (callSync "rnd" positional named).run.run w =
      (.ok (.num (w.seeds.next σ).1), { w with seeds := (w.seeds.next σ).2 }) := by
  unfold seedText at h
  split at h
  · rename_i args hb
    split_ifs at h with ht
    cases h
    rw [callSync_rnd, framed]
    apply run_tryCatch_ok
    rw [run_bind_ok (by rw [run_ofResult, hb]), run_rnd, if_pos ht]
  · cases h

/-- Any other call of `rnd` leaves the seeded streams as they are. -/
theorem callSync_rnd_seeds {positional : List Value} {named : List (String × Value)} {w : World}
    (h : seedText w.heap positional named = none) :
    ((callSync "rnd" positional named).run.run w).2.seeds = w.seeds := by
  rw [callSync_rnd, framed_world]
  unfold seedText at h
  split at h
  · rename_i args hb
    have ht : w.heap.truthy (argAt args 0) = false := by simpa using h
    rw [run_bind_ok (by rw [run_ofResult, hb]), run_rnd, if_neg (by simp [ht])]
  · rename_i e hb
    rw [run_bind_error (by rw [run_ofResult, hb])]

/-! ## Runs of calls -/

/-- A call into the function table, by one of its three entries. -/
inductive Call where
  | async (name : String) (positional : List Value) (named : List (String × Value))
  | sync (name : String) (positional : List Value) (named : List (String × Value))
  | method (receiver : Value) (name : String) (positional : List Value)
      (named : List (String × Value))

namespace Call

/-- The action of a call. -/
def act : Call → Act Value
  | async name positional named => call name positional named
  | sync name positional named => callSync name positional named
  | method receiver name positional named => callMethod receiver name positional named

/-- The world a call leaves, whether it answers or fails. -/
def after (w : World) (c : Call) : World :=
  (c.act.run.run w).2

/-- The canonical text of the seed a call draws with in a world: a call of `rnd` by name,
with a truthy seed there. -/
def seedDrawn (w : World) : Call → Option String
  | async name positional named | sync name positional named =>
    if name = "rnd" then seedText w.heap positional named else none
  | method .. => none

theorem act_seeded {c : Call} {w : World} {σ : String} (h : c.seedDrawn w = some σ) :
    c.act.run.run w =
      (.ok (.num (w.seeds.next σ).1), { w with seeds := (w.seeds.next σ).2 }) := by
  cases c with
  | async name positional named =>
    simp only [seedDrawn] at h
    split_ifs at h with hn
    subst hn
    rw [act, call_eq_callSync (by decide) (by decide)]
    exact run_callSync_rnd_seeded h
  | sync name positional named =>
    simp only [seedDrawn] at h
    split_ifs at h with hn
    subst hn
    exact run_callSync_rnd_seeded h
  | method => cases h

theorem after_seeded {c : Call} {w : World} {σ : String} (h : c.seedDrawn w = some σ) :
    c.after w = { w with seeds := (w.seeds.next σ).2 } := by
  rw [after, act_seeded h]

theorem seeds_after_unseeded {c : Call} {w : World} (h : c.seedDrawn w = none) :
    (c.after w).seeds = w.seeds := by
  cases c with
  | async name positional named =>
    by_cases hn : name = "rnd"
    · subst hn
      simp only [seedDrawn, if_true] at h
      rw [after, act, call_eq_callSync (by decide) (by decide)]
      exact callSync_rnd_seeds h
    · exact keepsSeeds_call hn positional named w _ _ rfl
  | sync name positional named =>
    by_cases hn : name = "rnd"
    · subst hn
      simp only [seedDrawn, if_true] at h
      exact callSync_rnd_seeds h
    · exact keepsSeeds_callSync hn positional named w _ _ rfl
  | method receiver name positional named =>
    exact keepsSeeds_callMethod receiver name positional named w _ _ rfl

end Call

/-- The world after calls made one after another, each from the world the one before
left. -/
def afterCalls : World → List Call → World
  | w, [] => w
  | w, c :: cs => afterCalls (c.after w) cs

/-- The seed texts drawn by calls made one after another, in order. -/
def drawsOf : World → List Call → List String
  | _, [] => []
  | w, c :: cs => (c.seedDrawn w).toList ++ drawsOf (c.after w) cs

/-- One call keeps the registry in step with the draws: a seeded call of `rnd` advances its
text's stream, and any other call leaves the registry as it was. -/
theorem tracks_after {w : World} {drawn : List String} (ht : w.seeds.Tracks drawn) (c : Call) :
    (c.after w).seeds.Tracks (drawn ++ (c.seedDrawn w).toList) := by
  cases hc : c.seedDrawn w with
  | none =>
    rw [Call.seeds_after_unseeded hc, Option.toList_none, List.append_nil]
    exact ht
  | some σ =>
    rw [Call.after_seeded hc]
    exact ht.next σ

theorem tracks_afterCalls {w : World} {drawn : List String} (ht : w.seeds.Tracks drawn)
    (cs : List Call) : (afterCalls w cs).seeds.Tracks (drawn ++ drawsOf w cs) := by
  induction cs generalizing w drawn with
  | nil => simpa [afterCalls, drawsOf] using ht
  | cons c cs ih =>
    rw [afterCalls, drawsOf, ← List.append_assoc]
    exact ih (tracks_after ht c)

open ScriptLib.Random ScriptLib.Random.Seeds in
/-- Along any run of calls of the table, by any of its entries and with any arguments, from
a world with no seeded stream yet, a call of `rnd` with a truthy seed answers the draw of its
seed text's stream numbered one past the earlier calls with that text, whatever seeds they
were given, and leaves the unseeded source as it was; any other call leaves the streams as
they are. The registry on its own follows the same law, counting the draws since its last
clear, and holds one stream per text drawn since then. A stream's draws are the numbers of
the Mulberry32 generator of its text. -/
theorem seeded_draws_follow_their_streams (w : World) (hw : w.seeds = {}) (cs : List Call)
    (c : Call) (ops : List Op) (σ : String) (j : Nat) :
    (c.seedDrawn (afterCalls w cs) = some σ →
      ∃ w', c.act.run.run (afterCalls w cs) =
          (.ok (.num (seededDraw σ ((drawsOf w cs).count σ + 1))), w') ∧
        w'.source = (afterCalls w cs).source) ∧
    (c.seedDrawn (afterCalls w cs) = none →
      (c.after (afterCalls w cs)).seeds = (afterCalls w cs).seeds) ∧
    ((replay ops).next σ).1 = seededDraw σ ((drawnSinceClear ops).count σ + 1) ∧
    (replay ops).size = (drawnSinceClear ops).toFinset.card ∧
    seededDraw σ (j + 1) = ((·.nextF64.2)^[j] (Mulberry.ofSeed σ)).nextF64.1 := by
  -- the registry of the world after the run tracks the texts drawn along it
  have ht : (afterCalls w cs).seeds.Tracks (drawsOf w cs) := by
    have h₀ : w.seeds.Tracks [] := by
      rw [hw]
      exact tracks_empty
    simpa using tracks_afterCalls h₀ cs
  refine ⟨fun hc => ?_, Call.seeds_after_unseeded, (replay_draws ops σ).1,
    (replay_draws ops σ).2, seededDraw_eq_nextF64 σ j⟩
  refine ⟨{ afterCalls w cs with seeds := ((afterCalls w cs).seeds.next σ).2 }, ?_, rfl⟩
  rw [Call.act_seeded hc, ht.next_fst]

/-- The seeds `true` and `"true"` share a stream: after `rnd(true)`, `rnd("true")` answers
the second draw of the stream of `"true"`. -/
theorem true_and_its_text_share_a_stream :
    ({} : World).seeds = {} ∧
      Call.seedDrawn (afterCalls {} [.sync "rnd" [.bool true] []]) (.sync "rnd" [.str "true"] []) =
        some "true" ∧
      drawsOf {} [.sync "rnd" [.bool true] []] = ["true"] ∧
      ∃ w', (Call.sync "rnd" [.str "true"] []).act.run.run
          (afterCalls {} [.sync "rnd" [.bool true] []]) = (.ok (.num (Random.seededDraw "true" 2)), w') := by
  have hw : ({} : World).seeds = {} := rfl
  have hc : Call.seedDrawn (afterCalls {} [.sync "rnd" [.bool true] []])
      (.sync "rnd" [.str "true"] []) = some "true" := by decide
  have hd : drawsOf {} [.sync "rnd" [.bool true] []] = ["true"] := by decide
  obtain ⟨w', hr, -⟩ := (seeded_draws_follow_their_streams {} hw [.sync "rnd" [.bool true] []]
    (.sync "rnd" [.str "true"] []) [] "true" 0).1 hc
  rw [hd] at hr
  exact ⟨hw, hc, hd, w', hr⟩

end Registry

end ScriptLib
