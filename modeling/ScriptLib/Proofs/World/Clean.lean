import ScriptLib.Registry

/-!
# Actions that fail cleanly

An action on the world may fail, and a failed action keeps whatever it changed before it
failed. An intrinsic makes all its checks before its first change, so when one fails, the
world is as it was before the call. This module gives the terms to say that one step at a
time. An action *keeps* the world when it never changes it. It is *total* when it never
fails. It is *clean* when a failure of it leaves the world as it found it. It is *bare* when
its errors carry no frame, and it *keeps the seeds* when it leaves the seeded streams.

A check followed by anything clean is clean (`Keeps.bind_clean`). The steps of a standard
function come in two kinds, and the three properties that calls have go along with them: a
`Check` reads the world and fails with no frame, a `Write` never fails and leaves the seeded
streams, and checks followed by writes make a `Tame` action, clean, bare and keeping the
seeds (`Check.bind_tame`).
-/

namespace ScriptLib

/-- A result that, if it is an error, carries no frame. -/
def Bare {α : Type} (r : Except Error α) : Prop :=
  ∀ e, r = .error e → e.stack = []

theorem bare_ok {α : Type} (a : α) : Bare (.ok a : Except Error α) := by
  intro e h
  cases h

theorem bare_error {α : Type} (c : Cause) : Bare (.error ⟨c, []⟩ : Except Error α) := by
  intro e h
  cases h
  rfl

theorem Bare.bind {α β : Type} {r : Except Error α} {f : α → Except Error β} (hr : Bare r)
    (hf : ∀ a, Bare (f a)) : Bare (r >>= f) := by
  intro e h
  cases r with
  | error e₀ =>
    cases h
    exact hr _ rfl
  | ok a => exact hf a e h

theorem bare_throw_bind {α β : Type} (c : Cause) (f : α → Except Error β) :
    Bare (throw ⟨c, []⟩ >>= f) := by
  intro e h
  cases h
  rfl

theorem Bare.foldlM {α β : Type} {g : β → α → Except Error β}
    (hg : ∀ b a, Bare (g b a)) :
    ∀ (xs : List α) (init : β), Bare (xs.foldlM g init)
  | [], _ => bare_ok _
  | a :: xs, init => by
    rw [List.foldlM_cons]
    exact (hg init a).bind fun b => Bare.foldlM hg xs b

theorem Bare.mapM {α β : Type} {g : α → Except Error β} (hg : ∀ a, Bare (g a)) :
    ∀ xs : List α, Bare (xs.mapM g)
  | [] => bare_ok _
  | a :: xs => by
    rw [List.mapM_cons]
    exact (hg a).bind fun b => (Bare.mapM hg xs).bind fun _ => bare_ok _

namespace Act

variable {α β : Type}

/-! ## Running actions -/

theorem run_bind_ok {x : Act α} {f : α → Act β} {w w₁ : World} {a : α}
    (h : x.run.run w = (.ok a, w₁)) : (x >>= f).run.run w = (f a).run.run w₁ := by
  rw [ExceptT.run_bind, StateT.run_bind, h]
  rfl

theorem run_bind_error {x : Act α} {f : α → Act β} {w w₁ : World} {e : Error}
    (h : x.run.run w = (.error e, w₁)) : (x >>= f).run.run w = (.error e, w₁) := by
  rw [ExceptT.run_bind, StateT.run_bind, h]
  rfl

theorem run_tryCatch_ok {x : Act α} {h : Error → Act α} {w w₁ : World} {a : α}
    (hx : x.run.run w = (.ok a, w₁)) : (tryCatch x h).run.run w = (.ok a, w₁) := by
  have hx' : StateT.run x w = (.ok a, w₁) := hx
  show (ExceptT.tryCatch x h).run.run w = _
  simp only [ExceptT.tryCatch, ExceptT.run_mk, StateT.run_bind, hx']
  rfl

theorem run_tryCatch_error {x : Act α} {h : Error → Act α} {w w₁ : World} {e : Error}
    (hx : x.run.run w = (.error e, w₁)) : (tryCatch x h).run.run w = (h e).run.run w₁ := by
  have hx' : StateT.run x w = (.error e, w₁) := hx
  show (ExceptT.tryCatch x h).run.run w = _
  simp only [ExceptT.tryCatch, ExceptT.run_mk, StateT.run_bind, hx']
  rfl

@[simp] theorem run_fail (c : Cause) (w : World) :
    (fail c : Act α).run.run w = (.error ⟨c, []⟩, w) := rfl

@[simp] theorem run_ofResult (r : Except Error α) (w : World) :
    (ofResult r).run.run w = (r, w) := by
  cases r <;> rfl

theorem run_bind (x : Act α) (f : α → Act β) (w : World) :
    (x >>= f).run.run w = match x.run.run w with
      | (.ok a, w') => (f a).run.run w'
      | (.error e, w') => (.error e, w') := by
  rcases h : x.run.run w with ⟨_ | a, w'⟩
  · exact run_bind_error h
  · exact run_bind_ok h

theorem run_heap_bind (f : Heap → Act α) (w : World) :
    (heap >>= f).run.run w = (f w.heap).run.run w := rfl

theorem run_heap (w : World) : heap.run.run w = (.ok w.heap, w) := rfl

theorem run_pure (a : α) (w : World) : (pure a : Act α).run.run w = (.ok a, w) := rfl

theorem run_display (v : Value) (w : World) :
    (display v).run.run w = (.ok (w.heap.display v), w) := rfl

theorem run_modifyHeap (f : Heap → Heap) (w : World) :
    (modifyHeap f).run.run w = (.ok (), { w with heap := f w.heap }) := rfl

/-! ## Keeping the world, never failing, failing cleanly -/

/-- The action never changes the world, whether it fails or not. -/
def Keeps (a : Act α) : Prop :=
  ∀ w r w', a.run.run w = (r, w') → w' = w

/-- The action never fails. -/
def Total (a : Act α) : Prop :=
  ∀ w e w', a.run.run w ≠ (.error e, w')

/-- A failure of the action leaves the world as it found it. -/
def Clean (a : Act α) : Prop :=
  ∀ w e w', a.run.run w = (.error e, w') → w' = w

variable {x : Act α} {f : α → Act β}

theorem Keeps.clean (hx : x.Keeps) : x.Clean :=
  fun w _ w' hr => hx w _ w' hr

theorem Total.clean (hx : x.Total) : x.Clean :=
  fun w e w' hr => absurd hr (hx w e w')

theorem Keeps.bind (hx : x.Keeps) (hf : ∀ a, (f a).Keeps) : (x >>= f).Keeps := by
  intro w r w' hr
  rcases hrun : x.run.run w with ⟨_ | a, w₁⟩
  · rw [run_bind_error hrun, Prod.mk.injEq] at hr
    rw [← hr.2]
    exact hx w _ _ hrun
  · rw [run_bind_ok hrun] at hr
    rw [hx w _ _ hrun] at hr
    exact hf a w r w' hr

theorem Total.bind (hx : x.Total) (hf : ∀ a, (f a).Total) : (x >>= f).Total := by
  intro w e w' hr
  rcases hrun : x.run.run w with ⟨_ | a, w₁⟩
  · exact hx w _ w₁ hrun
  · rw [run_bind_ok hrun] at hr
    exact hf a w₁ e w' hr

/-- A check followed by a clean action is clean: the check changed nothing. -/
theorem Keeps.bind_clean (hx : x.Keeps) (hf : ∀ a, (f a).Clean) : (x >>= f).Clean := by
  intro w e w' hr
  rcases hrun : x.run.run w with ⟨_ | a, w₁⟩
  · rw [run_bind_error hrun, Prod.mk.injEq] at hr
    rw [← hr.2]
    exact hx w _ _ hrun
  · rw [run_bind_ok hrun] at hr
    rw [hx w _ _ hrun] at hr
    exact hf a w e w' hr

/-! ## The steps intrinsics are made of -/

theorem keeps_of_run {a : Act α} (h : ∀ w, (a.run.run w).2 = w) : a.Keeps :=
  fun w r w' hr => by rw [← h w, hr]

theorem total_of_run {a : Act α} (h : ∀ w, ∃ v w', a.run.run w = (.ok v, w')) : a.Total := by
  intro w e w' hr
  obtain ⟨v, w'', hok⟩ := h w
  rw [hok] at hr
  cases hr

theorem keeps_pure (a : α) : (pure a : Act α).Keeps := keeps_of_run fun _ => rfl

theorem total_pure (a : α) : (pure a : Act α).Total := total_of_run fun w => ⟨a, w, rfl⟩

theorem keeps_fail (c : Cause) : (fail c : Act α).Keeps := keeps_of_run fun _ => rfl

/-- A failure ends the action, whatever was to follow. -/
theorem keeps_fail_bind (c : Cause) (f : α → Act β) : (fail c >>= f).Keeps :=
  keeps_of_run fun w => by rw [run_bind_error (run_fail c w)]

theorem total_get : (get : Act World).Total := total_of_run fun w => ⟨w, w, rfl⟩

theorem total_set (w' : World) : (set w' : Act PUnit).Total :=
  total_of_run fun _ => ⟨⟨⟩, w', rfl⟩

theorem total_modify (f : World → World) : (modify f : Act PUnit).Total :=
  total_of_run fun w => ⟨⟨⟩, f w, rfl⟩

theorem keeps_heap : heap.Keeps := keeps_of_run fun _ => rfl

theorem keeps_limits : limits.Keeps := keeps_of_run fun _ => rfl

theorem keeps_display (v : Value) : (display v).Keeps := keeps_of_run fun _ => rfl

theorem keeps_ofResult (r : Except Error α) : (ofResult r).Keeps :=
  keeps_of_run fun w => by rw [run_ofResult]

theorem total_modifyHeap (f : Heap → Heap) : (modifyHeap f).Total := total_modify _

theorem total_newList (xs : List Value) : (newList xs).Total :=
  total_get.bind fun _ => (total_set _).bind fun _ => total_pure _

theorem Keeps.map (hx : x.Keeps) (g : α → β) : (g <$> x).Keeps := by
  rw [map_eq_pure_bind]
  exact hx.bind fun _ => keeps_pure _

theorem total_heap : heap.Total := total_of_run fun w => ⟨w.heap, w, rfl⟩

theorem total_display (v : Value) : (display v).Total :=
  total_of_run fun w => ⟨w.heap.display v, w, rfl⟩

/-! ## Errors with no frame -/

/-- Every failure of the action carries no frame. -/
def Bare (a : Act α) : Prop :=
  ∀ w e w', a.run.run w = (.error e, w') → e.stack = []

theorem Total.bare (hx : x.Total) : x.Bare :=
  fun w e w' hr => absurd hr (hx w e w')

theorem bare_fail (c : Cause) : (fail c : Act α).Bare := by
  intro w e w' hr
  rw [run_fail, Prod.mk.injEq] at hr
  cases hr.1
  rfl

theorem bare_ofResult {r : Except Error α} (hr : ScriptLib.Bare r) : (ofResult r).Bare := by
  intro w e w' h
  rw [run_ofResult, Prod.mk.injEq] at h
  exact hr e h.1

theorem Bare.bind (hx : x.Bare) (hf : ∀ a, (f a).Bare) : (x >>= f).Bare := by
  intro w e w' hr
  rcases hrun : x.run.run w with ⟨_ | a, w₁⟩
  · rw [run_bind_error hrun, Prod.mk.injEq] at hr
    cases hr.1
    exact hx w _ _ hrun
  · rw [run_bind_ok hrun] at hr
    exact hf a w₁ e w' hr

/-! ## Keeping the seeded streams -/

/-- The action leaves the seeded streams as they are, whether it fails or not. -/
def KeepsSeeds (a : Act α) : Prop :=
  ∀ w r w', a.run.run w = (r, w') → w'.seeds = w.seeds

theorem Keeps.keepsSeeds (hx : x.Keeps) : x.KeepsSeeds := by
  intro w r w' hr
  rw [hx w r w' hr]

theorem KeepsSeeds.bind (hx : x.KeepsSeeds) (hf : ∀ a, (f a).KeepsSeeds) :
    (x >>= f).KeepsSeeds := by
  intro w r w' hr
  rcases hrun : x.run.run w with ⟨_ | a, w₁⟩
  · rw [run_bind_error hrun, Prod.mk.injEq] at hr
    rw [← hr.2]
    exact hx w _ _ hrun
  · rw [run_bind_ok hrun] at hr
    rw [hf a w₁ r w' hr]
    exact hx w _ _ hrun

theorem keepsSeeds_of_run {a : Act α} (h : ∀ w, (a.run.run w).2.seeds = w.seeds) :
    a.KeepsSeeds :=
  fun w r w' hr => by rw [← h w, hr]

/-! ## Checks, writes and tame actions -/

/-- A check reads the world and changes nothing; a failure of it carries no frame. -/
structure Check (a : Act α) : Prop where
  keeps : a.Keeps
  bare : a.Bare

/-- A write never fails, and leaves the seeded streams. -/
structure Write (a : Act α) : Prop where
  total : a.Total
  keepsSeeds : a.KeepsSeeds

/-- A tame action fails cleanly and with no frame, and leaves the seeded streams. -/
structure Tame (a : Act α) : Prop where
  clean : a.Clean
  bare : a.Bare
  keepsSeeds : a.KeepsSeeds

theorem Check.tame (hx : Check x) : Tame x :=
  ⟨hx.keeps.clean, hx.bare, hx.keeps.keepsSeeds⟩

theorem Write.tame (hx : Write x) : Tame x :=
  ⟨hx.total.clean, hx.total.bare, hx.keepsSeeds⟩

theorem Check.bind (hx : Check x) (hf : ∀ a, Check (f a)) : Check (x >>= f) :=
  ⟨hx.keeps.bind fun a => (hf a).keeps, hx.bare.bind fun a => (hf a).bare⟩

theorem Write.bind (hx : Write x) (hf : ∀ a, Write (f a)) : Write (x >>= f) :=
  ⟨hx.total.bind fun a => (hf a).total, hx.keepsSeeds.bind fun a => (hf a).keepsSeeds⟩

/-- Checks before a tame action: a failure of the checks changed nothing. -/
theorem Check.bind_tame (hx : Check x) (hf : ∀ a, Tame (f a)) : Tame (x >>= f) :=
  ⟨hx.keeps.bind_clean fun a => (hf a).clean, hx.bare.bind fun a => (hf a).bare,
    hx.keeps.keepsSeeds.bind fun a => (hf a).keepsSeeds⟩

theorem Check.map (hx : Check x) (g : α → β) : Check (g <$> x) :=
  ⟨hx.keeps.map g, by rw [map_eq_pure_bind]; exact hx.bare.bind fun _ => (total_pure _).bare⟩

theorem check_pure (a : α) : Check (pure a : Act α) := ⟨keeps_pure a, (total_pure a).bare⟩

theorem check_fail (c : Cause) : Check (fail c : Act α) := ⟨keeps_fail c, bare_fail c⟩

/-- A failure ends the action, whatever was to follow. -/
theorem check_fail_bind (c : Cause) (f : α → Act β) : Check (fail c >>= f) := by
  refine ⟨keeps_fail_bind c f, fun w e w' hr => ?_⟩
  rw [run_bind_error (run_fail c w), Prod.mk.injEq] at hr
  cases hr.1
  rfl

theorem check_heap : Check heap := ⟨keeps_heap, total_heap.bare⟩

theorem check_limits : Check limits :=
  ⟨keeps_limits, (total_of_run fun w => ⟨w.limits, w, rfl⟩).bare⟩

theorem check_display (v : Value) : Check (display v) := ⟨keeps_display v, (total_display v).bare⟩

theorem check_ofResult {r : Except Error α} (hr : ScriptLib.Bare r) : Check (ofResult r) :=
  ⟨keeps_ofResult r, bare_ofResult hr⟩

theorem write_pure (a : α) : Write (pure a : Act α) := ⟨total_pure a, (keeps_pure a).keepsSeeds⟩

theorem write_modifyHeap (g : Heap → Heap) : Write (modifyHeap g) :=
  ⟨total_modifyHeap g, keepsSeeds_of_run fun _ => rfl⟩

/-- A change of the world that leaves the seeded streams. -/
theorem write_modify {g : World → World} (hg : ∀ w, (g w).seeds = w.seeds) :
    Write (modify g : Act PUnit) :=
  ⟨total_modify g, keepsSeeds_of_run hg⟩

theorem write_newList (xs : List Value) : Write (newList xs) :=
  ⟨total_newList xs, keepsSeeds_of_run fun _ => rfl⟩

theorem write_heap : Write heap := ⟨total_heap, keeps_heap.keepsSeeds⟩

theorem write_display (v : Value) : Write (display v) :=
  ⟨total_display v, (keeps_display v).keepsSeeds⟩

/-- A write to the heap followed by an answer. -/
theorem write_update (g : Heap → Heap) (v : Value) : Write (modifyHeap g >>= fun _ => pure v) :=
  (write_modifyHeap g).bind fun _ => write_pure v

/-- A change of the world that leaves the seeded streams, followed by anything that
writes. -/
theorem write_get_set {g : World → World} (hg : ∀ w, (g w).seeds = w.seeds) (k : PUnit → Act β)
    (hk : ∀ u, Write (k u)) : Write (get >>= fun w => set (g w) >>= k) := by
  refine ⟨total_get.bind fun _ => (total_set _).bind fun u => (hk u).total, ?_⟩
  intro w r w' hr
  have hrun : (get >>= fun w => set (g w) >>= k : Act β).run.run w = (k ⟨⟩).run.run (g w) := rfl
  rw [hrun] at hr
  rw [(hk ⟨⟩).keepsSeeds _ _ _ hr, hg]

end Act

end ScriptLib
