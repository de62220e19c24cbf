import ArthNeura.OffchainAgentRegistry.Client

set_option autoImplicit false

/-! # Identities that are lost

`register_or_load_agent` registers a fresh key and saves it afterwards. A registration that is
finalized is lost if anything goes wrong between the two: the key was only in memory.
`identity_kept_iff` says exactly when the identity can be loaded afterwards. In particular the label
is validated for the first time by the save, when the registration is already paid for.
-/

namespace OffchainAgentRegistry

open Frame Process Keystore

section

variable {lib : Lib} {blake2_256 : Bytes → Bytes32} {o : RegisterOrLoadOutcomes}
  {dir label passphrase : String} {w : World}

/-! ## What a call leaves behind -/

theorem after_registerOrLoad_of_exists (h : identityExists w.disk dir label = true) :
    after (registerOrLoadAgent lib blake2_256 o dir label passphrase) w = w := by
  rw [registerOrLoadAgent, after_get_bind, if_pos h, after_bind_pure, after_onDisk,
    after_loadIdentity]

theorem registerOrLoad_of_loads {agent : RegisteredAgent} (hread : o.read = .ok ())
    (h : Loads lib w.disk ⟨dir, label⟩ passphrase agent.stored) :
    (registerOrLoadAgent lib blake2_256 o dir label passphrase).run w = .ok agent w := by
  rw [registerOrLoadAgent, run_get_bind, if_pos h.identityExists, hread]
  exact run_bind_ok.2 ⟨agent.stored, w, run_onDisk_of_ok _ h, rfl⟩

section

variable (hnew : identityExists w.disk dir label = false)

include hnew

theorem after_registerOrLoad_of_reported (hreported : o.register.Reported) :
    after (registerOrLoadAgent lib blake2_256 o dir label passphrase) w =
      { w.register ⟨dir, label⟩ (o.register.agent blake2_256) with
        disk := after (saveIdentity lib o.save dir label (o.register.agent blake2_256).did
          (o.register.agent blake2_256).signingKeyBytes passphrase) w.disk } := by
  have hregister := registerAgent_of_reported blake2_256 ⟨dir, label⟩ hreported w
  rw [registerOrLoadAgent, after_get_bind, if_neg (by simp [hnew]),
    after_bind_of_ok (run_wrapError_of_ok _ hregister), after_bind_pure, after_onDisk]
  rfl

theorem after_registerOrLoad_of_not_reported (hreported : ¬ o.register.Reported) :
    after (registerOrLoadAgent lib blake2_256 o dir label passphrase) w =
      if o.register.lands then w.register ⟨dir, label⟩ (o.register.agent blake2_256) else w := by
  obtain ⟨exit, hexit⟩ := registerAgent_of_not_reported blake2_256 ⟨dir, label⟩ hreported w
  rw [registerOrLoadAgent, after_get_bind, if_neg (by simp [hnew]),
    after_bind_of_error (run_wrapError_of_error _ hexit)]

theorem registered_after_registerOrLoad :
    (after (registerOrLoadAgent lib blake2_256 o dir label passphrase) w).registered =
      if o.register.lands then
        w.registered ++ [(⟨dir, label⟩, o.register.agent blake2_256)]
      else w.registered := by
  by_cases hreported : o.register.Reported
  · rw [after_registerOrLoad_of_reported hnew hreported, if_pos hreported.lands]
    rfl
  · rw [after_registerOrLoad_of_not_reported hnew hreported]
    split <;> rfl

theorem loads_after_registerOrLoad_iff :
    Loads lib (after (registerOrLoadAgent lib blake2_256 o dir label passphrase) w).disk
        ⟨dir, label⟩ passphrase (o.register.agent blake2_256).stored ↔
      o.register.Reported ∧ o.save.write = .ok ∧
        ∃ json, Ready lib o.save w.disk ⟨dir, label⟩ (o.register.agent blake2_256).did
          (o.register.agent blake2_256).signingKeyBytes passphrase json := by
  by_cases hreported : o.register.Reported
  · rw [after_registerOrLoad_of_reported hnew hreported]
    exact (loads_after_saveIdentity_iff hnew).trans (by simp [hreported])
  · have hdisk :
        (after (registerOrLoadAgent lib blake2_256 o dir label passphrase) w).disk = w.disk := by
      rw [after_registerOrLoad_of_not_reported hnew hreported]
      split <;> rfl
    rw [hdisk]
    exact iff_of_false (not_loads_of_not_exists hnew) fun h => hreported h.1

end

end

/-! ## The result -/

/-- **Exactly when an identity is kept.** Suppose a call registers an agent. Afterwards the agent
can be loaded with the passphrase, and, if the call fails, a second call returns it and leaves the
chain alone; this is so exactly if the call does not come to a registration, or the registration is
reported, everything before the write of the save goes through, and the write does. -/
theorem identity_kept_iff (lib : Lib) (blake2_256 : Bytes → Bytes32) (o : RegisterOrLoadOutcomes)
    (dir label passphrase : String) (w : World) :
    let call := registerOrLoadAgent lib blake2_256 o dir label passphrase
    let w' := after call w
    (∀ agent, w'.registered = w.registered ++ [(⟨dir, label⟩, agent)] →
      Loads lib w'.disk ⟨dir, label⟩ passphrase agent.stored ∧
      ((∃ e, call.run w = .error (.error e) w') → ∀ o' : RegisterOrLoadOutcomes,
        o'.read = .ok () →
          (registerOrLoadAgent lib blake2_256 o' dir label passphrase).run w' = .ok agent w')) ↔
    (identityExists w.disk dir label = true ∨ o.register.lands = false ∨
      (o.register.Reported ∧ o.save.write = .ok ∧
        ∃ json, Ready lib o.save w.disk ⟨dir, label⟩ (o.register.agent blake2_256).did
          (o.register.agent blake2_256).signingKeyBytes passphrase json)) := by
  intro call w'
  have hself : ∀ entry : KeyPath × RegisteredAgent, w.registered ≠ w.registered ++ [entry] := by
    simp
  by_cases hexists : identityExists w.disk dir label = true
  · have hw : w' = w := after_registerOrLoad_of_exists hexists
    refine iff_of_true ?_ (Or.inl hexists)
    intro agent hagent
    rw [hw] at hagent
    exact absurd hagent (hself _)
  · have hnew : identityExists w.disk dir label = false := Bool.eq_false_iff.2 hexists
    have hregistered : w'.registered = _ := registered_after_registerOrLoad hnew
    cases hlands : o.register.lands with
    | false =>
        rw [hlands] at hregistered
        refine iff_of_true ?_ (Or.inr (Or.inl rfl))
        intro agent hagent
        exact absurd (hregistered.symm.trans hagent) (hself _)
    | true =>
        have hloads : Loads lib w'.disk ⟨dir, label⟩ passphrase _ ↔ _ :=
          loads_after_registerOrLoad_iff hnew
        rw [hlands] at hregistered
        constructor
        · intro h
          exact Or.inr (Or.inr (hloads.1 (h _ hregistered).1))
        · rintro (h | h | h)
          · exact absurd h hexists
          · cases h
          · intro agent hagent
            have hsame : agent = o.register.agent blake2_256 := by
              have hlast := List.append_cancel_left (hagent.symm.trans hregistered)
              simpa using hlast
            rw [hsame]
            exact ⟨hloads.2 h, fun _ o' hread => registerOrLoad_of_loads hread (hloads.2 h)⟩

/-- Everything goes through, with the `n`-th key. -/
def allFinalized (n : UInt8) : RegisterOrLoadOutcomes where
  read := .ok ()
  register := RegisterOutcomes.finalized n
  save := Mock.allOk

/-- A label with a space is refused after the registration, and a second call registers again. -/
theorem orphaned_by_label :
    ∃ w₁ w₂,
      (registerOrLoadAgent Mock.testLib tailHash (allFinalized 1) "keys" "my agent"
          "passphrase").run World.initial =
        .error (.error (.keyStore (.invalidLabel "my agent"))) w₁ ∧
      w₁.registered = [(⟨"keys", "my agent"⟩, ⟨deriveDid tailHash [1], [1]⟩)] ∧
      (∀ passphrase identity,
        ¬ Loads Mock.testLib w₁.disk ⟨"keys", "my agent"⟩ passphrase identity) ∧
      (registerOrLoadAgent Mock.testLib tailHash (allFinalized 2) "keys" "my agent"
          "passphrase").run w₁ = .error (.error (.keyStore (.invalidLabel "my agent"))) w₂ ∧
      w₂.registered.length = 2 := by
  refine ⟨_, _, rfl, rfl, ?_, rfl, rfl⟩
  intro passphrase identity
  exact not_loads_of_not_exists (by decide)

end OffchainAgentRegistry
