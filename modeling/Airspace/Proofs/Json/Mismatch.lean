import Airspace.Json.Decode

/-!
# The first mismatch is kept

A reader records the first value of the wrong kind and goes on; every later mismatch leaves
that record as it is (`mismatch`). So once a reading has met a mismatch it never ends
without one (`KeepsMismatch`), and a reading that ends clean, with no mismatch recorded, ran
every one of its steps clean (`clean_of_bind`). For the checks of numbers this means: a
clean check of array elements found every number among them within binary64
(`checkItems_clean`).
-/

namespace Airspace.Json

variable {ε α β : Type}

theorem run_bind (x : Reader ε α) (f : α → Reader ε β) (s : Option TypeMismatch) :
    StateT.run (x >>= f) s = match StateT.run x s with
      | .ok (a, s') => StateT.run (f a) s'
      | .error e => .error e := by
  simp only [StateT.run, bind, StateT.bind, Except.bind]
  cases x s <;> rfl

theorem run_pure (a : α) (s : Option TypeMismatch) :
    StateT.run (pure a : Reader ε α) s = .ok (a, s) := rfl

theorem run_mismatch (m : TypeMismatch) (s : Option TypeMismatch) :
    StateT.run (mismatch m : Reader ε Unit) s = .ok ((), if s.isSome then s else some m) := rfl

/-- A reader that keeps a mismatch already met: started after one, it ends, when it ends
well, with that mismatch still recorded. -/
def KeepsMismatch (r : Reader ε α) : Prop :=
  ∀ m a σ, StateT.run r (some m) = .ok (a, σ) → σ = some m

theorem keepsMismatch_pure (a : α) : KeepsMismatch (pure a : Reader ε α) := by
  intro m b σ h
  rw [run_pure] at h
  cases h
  rfl

theorem keepsMismatch_mismatch (m : TypeMismatch) : KeepsMismatch (mismatch m : Reader ε Unit) := by
  intro m' b σ h
  rw [run_mismatch] at h
  cases h
  rfl

theorem keepsMismatch_bind {x : Reader ε α} {f : α → Reader ε β} (hx : KeepsMismatch x)
    (hf : ∀ a, KeepsMismatch (f a)) : KeepsMismatch (x >>= f) := by
  intro m b σ h
  rw [run_bind] at h
  split at h
  · next a s' hrun =>
    rw [hx m a s' hrun] at h
    exact hf a m b σ h
  · cases h

/-- A reading that ends clean ran its first step clean. -/
theorem clean_of_bind {x : Reader ε α} {f : α → Reader ε β} (hf : ∀ a, KeepsMismatch (f a)) {b : β}
    (h : StateT.run (x >>= f) none = .ok (b, none)) :
    ∃ a, StateT.run x none = .ok (a, none) ∧ StateT.run (f a) none = .ok (b, none) := by
  rw [run_bind] at h
  split at h
  · next a s' hrun =>
    cases s' with
    | none => exact ⟨a, hrun, h⟩
    | some m => cases hf a m b none h
  · cases h

/-- A reading that gives a value ran clean from the start. -/
theorem run_of_run'_eq_ok {x : Reader ε α} {a : α} (h : x.run' = .ok a) :
    StateT.run x none = .ok (a, none) := by
  unfold Reader.run' at h
  split at h
  · cases h
  · next a' hrun =>
    cases h
    exact hrun
  · cases h

/-! ## Folds and maps -/

section Lists

variable {γ : Type}

theorem keepsMismatch_foldlM {f : β → γ → Reader ε β} (hf : ∀ b c, KeepsMismatch (f b c)) :
    ∀ (cs : List γ) (b : β), KeepsMismatch (cs.foldlM f b)
  | [], b => keepsMismatch_pure b
  | c :: cs, b => by
    rw [List.foldlM_cons]
    exact keepsMismatch_bind (hf b c) fun b' => keepsMismatch_foldlM hf cs b'

/-- What every clean step of a fold keeps, a clean fold keeps. -/
theorem foldlM_clean {f : β → γ → Reader ε β} (hf : ∀ b c, KeepsMismatch (f b c)) (P : β → Prop)
    (hstep : ∀ b c b', P b → StateT.run (f b c) none = .ok (b', none) → P b') :
    ∀ (cs : List γ) (b b' : β), P b → StateT.run (cs.foldlM f b) none = .ok (b', none) → P b'
  | [], b, b', hb, h => by
    rw [List.foldlM_nil, run_pure] at h
    cases h
    exact hb
  | c :: cs, b, b', hb, h => by
    rw [List.foldlM_cons] at h
    obtain ⟨b₁, h₁, hrest⟩ := clean_of_bind (fun b₁ => keepsMismatch_foldlM hf cs b₁) h
    exact foldlM_clean hf P hstep cs b₁ b' (hstep b c b₁ hb h₁) hrest

theorem keepsMismatch_mapM {f : γ → Reader ε β} (hf : ∀ c, KeepsMismatch (f c)) :
    ∀ cs : List γ, KeepsMismatch (cs.mapM f)
  | [] => keepsMismatch_pure []
  | c :: cs => by
    rw [List.mapM_cons]
    exact keepsMismatch_bind (hf c) fun b =>
      keepsMismatch_bind (keepsMismatch_mapM hf cs) fun bs => keepsMismatch_pure (b :: bs)

/-- Each result of a clean map comes from a clean step. -/
theorem mapM_clean {f : γ → Reader ε β} (hf : ∀ c, KeepsMismatch (f c)) :
    ∀ {cs : List γ} {bs : List β}, StateT.run (cs.mapM f) none = .ok (bs, none) →
      ∀ b ∈ bs, ∃ c ∈ cs, StateT.run (f c) none = .ok (b, none)
  | [], bs, h, b, hb => by
    rw [List.mapM_nil, run_pure] at h
    cases h
    exact absurd hb List.not_mem_nil
  | c :: cs, bs, h, b, hb => by
    rw [List.mapM_cons] at h
    obtain ⟨b₀, h₀, hrest⟩ := clean_of_bind
      (fun b₀ => keepsMismatch_bind (keepsMismatch_mapM hf cs) fun bs => keepsMismatch_pure (b₀ :: bs)) h
    obtain ⟨bs', hcs, hpure⟩ := clean_of_bind (fun bs => keepsMismatch_pure (b₀ :: bs)) hrest
    rw [run_pure] at hpure
    cases hpure
    rcases List.mem_cons.mp hb with rfl | hb
    · exact ⟨c, List.mem_cons_self, h₀⟩
    · obtain ⟨c', hc', hrun⟩ := mapM_clean hf hcs b hb
      exact ⟨c', List.mem_cons_of_mem _ hc', hrun⟩

end Lists

/-! ## The checks of numbers -/

section Checks

variable (record : String)

theorem keepsMismatch_checkNumber (path : List Step) (lit : String) :
    KeepsMismatch (checkNumbers record path (.number lit) : Reader ε Unit) := by
  unfold checkNumbers
  split
  · split
    · exact keepsMismatch_mismatch _
    · exact keepsMismatch_pure _
  · exact keepsMismatch_mismatch _

mutual

theorem keepsMismatch_checkNumbers (path : List Step) :
    ∀ v : Value, KeepsMismatch (checkNumbers record path v : Reader ε Unit)
  | .number lit => keepsMismatch_checkNumber record path lit
  | .array items => by
    rw [checkNumbers]
    exact keepsMismatch_checkItems path 0 items
  | .object members => by
    rw [checkNumbers]
    exact keepsMismatch_checkMembers path members
  | .null => keepsMismatch_pure _
  | .bool _ => keepsMismatch_pure _
  | .string _ => keepsMismatch_pure _

theorem keepsMismatch_checkItems (path : List Step) :
    ∀ (i : Nat) (items : List Value), KeepsMismatch (checkItems record path i items : Reader ε Unit)
  | _, [] => keepsMismatch_pure _
  | i, v :: rest => keepsMismatch_bind (keepsMismatch_checkNumbers (path ++ [.index i]) v)
      fun _ => keepsMismatch_checkItems path (i + 1) rest

theorem keepsMismatch_checkMembers (path : List Step) :
    ∀ members : List (String × Value),
      KeepsMismatch (checkMembers record path members : Reader ε Unit)
  | [] => keepsMismatch_pure _
  | (k, v) :: rest => keepsMismatch_bind (keepsMismatch_checkNumbers (path ++ [.member k]) v)
      fun _ => keepsMismatch_checkMembers path rest

end

/-- A JSON number that binary64 holds: its literal is read, and does not overflow. -/
def NumberFits (lit : String) : Prop :=
  (Decimal.Literal.ofJson? lit).map Decimal.Literal.outOfRange = some false

theorem numberFits_of_clean {path : List Step} {lit : String}
    (h : StateT.run (checkNumbers record path (.number lit) : Reader ε Unit) none = .ok ((), none)) :
    NumberFits lit := by
  unfold checkNumbers at h
  split at h
  · next l hl =>
    split at h
    · rw [run_mismatch] at h
      cases h
    · next hrange =>
      rw [NumberFits, hl, Option.map_some]
      simpa using hrange
  · rw [run_mismatch] at h
    cases h

/-- A clean check of array elements found every number among them within binary64. -/
theorem checkItems_clean {path : List Step} :
    ∀ {i : Nat} {items : List Value},
      StateT.run (checkItems record path i items : Reader ε Unit) none = .ok ((), none) →
      ∀ lit, .number lit ∈ items → NumberFits lit
  | _, [], _, _, hmem => absurd hmem List.not_mem_nil
  | i, v :: rest, h, lit, hmem => by
    obtain ⟨_, hv, hrest⟩ := clean_of_bind
      (fun _ => keepsMismatch_checkItems record path (i + 1) rest) h
    rcases List.mem_cons.mp hmem with rfl | hmem
    · exact numberFits_of_clean record hv
    · exact checkItems_clean hrest lit hmem

end Checks

end Airspace.Json
