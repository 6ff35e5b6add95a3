import TokenRotation.Proofs.Acceptance

/-!
# Single use

A token is accepted for the first time at most once, then only inside its grace window, and never
after it was revoked: in every run of the operations, on a store of either kind, with any faults and
at any instants, whether or not they increase.

The argument goes from deed to deed. A first acceptance finds the row without a stamp and leaves it
with one; stamps and revocations stay; so nothing that needs a row without a stamp, or a row that is
not revoked, can come after them.

* `History.countP_firstUse_le_one` -- at most one first acceptance in a history;
* `History.not_accepted_of_revoked` -- nothing is accepted once it is revoked;
* `Session.singleUse` -- all of it for the steps of a session.
-/

namespace TokenRotation

/-! ## 1. One deed -/

/-- The deed accepted the token with that hash for the first time. -/
def Deed.isFirstUseOf (hash : String) (d : Deed) : Bool :=
  match d.accepted? with
  | some (row, .first) => row.hash = hash
  | _ => false

theorem Deed.exists_of_isFirstUseOf {d : Deed} {hash : String} (h : d.isFirstUseOf hash) :
    ∃ row, d.accepted? = some (row, .first) ∧ row.hash = hash := by
  unfold isFirstUseOf at h
  split at h
  · next row heq => exact ⟨row, heq, by simpa using h⟩
  · cases h

/-! ## 2. Histories -/

namespace History

variable {k : StoreKind} {rows after : Table} {deeds : List Deed} {hash : String} {r : Row}

/-- A row with a stamp is never accepted for the first time again. -/
theorem countP_firstUse_of_consumed (h : History k rows deeds after)
    (found : rows.byHash? hash = some r) (hc : r.consumedAt.isSome) :
    deeds.countP (Deed.isFirstUseOf hash) = 0 := by
  induction h generalizing r with
  | nil => rfl
  | @cons d deeds after lawful _ ih =>
    obtain ⟨s, hs, hrs⟩ := lawful.evolves.byHash? found
    have hnot : ¬ d.isFirstUseOf hash := by
      intro hfirst
      obtain ⟨row, hrow, rfl⟩ := Deed.exists_of_isFirstUseOf hfirst
      obtain ⟨-, r', -, found', -, -, hnone, -⟩ := lawful.of_first hrow
      rw [found] at found'
      cases found'
      rw [hnone] at hc
      cases hc
    rw [List.countP_cons_of_neg hnot]
    exact ih hs (hrs.isSome_consumedAt hc)

/-- **At most one first acceptance.** -/
theorem countP_firstUse_le_one (h : History k rows deeds after) (hash : String) :
    deeds.countP (Deed.isFirstUseOf hash) ≤ 1 := by
  induction h with
  | nil => exact Nat.zero_le 1
  | @cons d deeds after lawful rest ih =>
    by_cases hfirst : d.isFirstUseOf hash
    · obtain ⟨row, hrow, rfl⟩ := Deed.exists_of_isFirstUseOf hfirst
      obtain ⟨-, -, s, -, -, -, -, hs, hc⟩ := lawful.of_first hrow
      have hrest := rest.countP_firstUse_of_consumed hs hc
      rw [List.countP_cons_of_pos hfirst]
      omega
    · rw [List.countP_cons_of_neg hfirst]
      exact ih

/-- **Nothing is accepted once it is revoked.** -/
theorem not_accepted_of_revoked (h : History k rows deeds after)
    (found : rows.byHash? hash = some r) (hr : r.revokedAt.isSome) {d : Deed} (hd : d ∈ deeds)
    {row : Row} {kind : ConsumeKind} (hacc : d.accepted? = some (row, kind)) : row.hash ≠ hash := by
  rintro rfl
  obtain ⟨front, back, rfl⟩ := List.append_of_mem hd
  obtain ⟨hfront, lawful, -⟩ := h.split_cons
  obtain ⟨s, hs, hrs⟩ := hfront.evolves.byHash? found
  obtain ⟨-, s', hs', -, hnone, -⟩ := lawful.of_accepted hacc
  rw [hs] at hs'
  cases hs'
  have hsome := hrs.isSome_revokedAt hr
  rw [hnone] at hsome
  cases hsome

end History

/-! ## 3. Runs -/

/-- **Tokens are used once.** A row is named by its hash, which no other row has. -/
structure SingleUse (start : Table) (deeds : List Deed) : Prop where
  distinct : ∀ d ∈ deeds, d.before.HashesDistinct ∧ d.after.HashesDistinct
  /-- What is accepted was presented by its own hash and is not revoked; it was accepted for the
      first time if it had no stamp. -/
  accepted_as_found : ∀ d ∈ deeds, ∀ row kind, d.accepted? = some (row, kind) →
    d.presented? = some row.hash ∧ ∃ r ∈ d.before, r.hash = row.hash ∧ r.revokedAt = none ∧
      (kind = .first ↔ r.consumedAt = none)
  /-- A row is accepted for the first time at most once. -/
  first_once : ∀ hash, deeds.countP (Deed.isFirstUseOf hash) ≤ 1
  /-- A row that starts consumed is never accepted for the first time. -/
  first_of_unconsumed : ∀ r ∈ start, r.consumedAt.isSome →
    deeds.countP (Deed.isFirstUseOf r.hash) = 0
  /-- What is accepted inside its grace window is a row as it stands in the table, consumed before,
      at an instant neither after its deadline nor after its expiry. -/
  grace_in_time : ∀ d ∈ deeds, ∀ row, d.accepted? = some (row, .grace) →
    row ∈ d.before ∧ row.consumedAt.isSome ∧
      ∃ now g, d.judgedAt? = some now ∧ row.graceExpiresAt = some g ∧ now ≤ g ∧
        now ≤ row.expiresAt
  /-- Nothing is accepted after the deed that revoked it. -/
  never_after_revocation : ∀ front d back, deeds = front ++ d :: back →
    ∀ r ∈ d.after, r.revokedAt.isSome → ∀ e ∈ back, ∀ row kind,
      e.accepted? = some (row, kind) → row.hash ≠ r.hash

theorem History.usedOnce {k : StoreKind} {start after : Table} {deeds : List Deed}
    (h : History k start deeds after) (distinct : start.HashesDistinct) :
    SingleUse start deeds where
  distinct _ hd := h.hashesDistinct_of_mem distinct hd
  accepted_as_found _ hd row kind hacc := by
    obtain ⟨hp, r, found, -, hr, hkind⟩ := (h.lawful_of_mem hd).of_accepted hacc
    exact ⟨hp, r, Table.mem_of_byHash? found, Table.hash_of_byHash? found, hr, hkind⟩
  first_once hash := h.countP_firstUse_le_one hash
  first_of_unconsumed _ hr hc :=
    h.countP_firstUse_of_consumed (Table.byHash?_of_mem distinct hr) hc
  grace_in_time _ hd row hacc := by
    obtain ⟨-, found, -, hc, hgrace⟩ := (h.lawful_of_mem hd).of_grace hacc
    exact ⟨Table.mem_of_byHash? found, hc, hgrace⟩
  never_after_revocation front d back heq r hr hrevoked e he row kind hacc := by
    subst heq
    obtain ⟨hfront, lawful, hback⟩ := h.split_cons
    have hafter := lawful.hashesDistinct (hfront.hashesDistinct distinct)
    exact hback.not_accepted_of_revoked (Table.byHash?_of_mem hafter hr) hrevoked he hacc

/-- **Tokens are used once** in every run of a session whose table has distinct hashes: on a store
    of either kind, under any steps, faults and clocks. -/
theorem Session.singleUse (s : Session) (distinct : s.store.rows.HashesDistinct)
    (steps : List Step) : SingleUse s.store.rows (s.deeds 0 steps) :=
  (s.history 0 steps).usedOnce distinct

/-- A login is rotated, presented again inside its grace window, and presented late: it is accepted
    for the first time once. -/
theorem Session.singleUse_of_login :
    let token := (Secret.ofNat 1).token
    let steps := [Step.at 0 (.issue "alice" none), Step.at 9 (.rotate token),
      Step.at 12 (.consume token), Step.at 30 (.consume token)]
    SingleUse [] ((trial []).deeds 0 steps) ∧
      ((trial []).deeds 0 steps).countP (Deed.isFirstUseOf (hashOf token)) = 1 :=
  ⟨Session.singleUse (trial []) (by decide) _, by decide +kernel⟩

end TokenRotation
