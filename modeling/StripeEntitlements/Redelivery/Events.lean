import StripeEntitlements.Processor.Process

/-!
# Redelivered Events

Stripe may send the same fact again under a new Event ID. The guards of a handler read the
ID only to word their answers, so both deliveries pass or both stop; and the account that a
delivery locks is locked again after the handler wrote to it.

## Main results

- `Event.redelivered` — the same Event under another Event ID
- `Guarded.andThen_stops` — a second delivery stops where the first one stopped
- `lockAccount_update` — the locked account is found again after an update
-/

namespace StripeEntitlements

open Relational

/-- The same type, object and time under another Event ID. -/
def Event.redelivered (e : Event) (id : Json) : Event := { e with id }

section

variable (e : Event) (id : Json)

@[simp] theorem Event.kind_redelivered : (e.redelivered id).kind = e.kind := rfl

@[simp] theorem Event.object_redelivered : (e.redelivered id).object = e.object := rfl

@[simp] theorem wins_redelivered (a : Account) : wins a (e.redelivered id) = wins a e := rfl

end

/-! ## Guards -/

section

variable {ε α β : Type}

theorem toOption_eq_some {x : Except ε α} {a : α} : x.toOption = some a ↔ x = .ok a := by
  cases x with
  | error => simp [Except.toOption]
  | ok => simp [Except.toOption]

@[simp] theorem toOption_pure (a : α) : (pure a : Except ε α).toOption = some a := rfl

@[simp] theorem toOption_bind (x : Except ε α) (f : α → Except ε β) :
    (x >>= f).toOption = x.toOption.bind fun a => (f a).toOption := by
  cases x <;> rfl

@[simp] theorem toOption_fetch (row : Option α) (e : ε) : (fetch row e).toOption = row := by
  cases row <;> rfl

@[simp] theorem toOption_require (p : Bool) (e : ε) :
    (require p e).toOption = if p then some () else none := by
  cases p <;> rfl

@[simp] theorem toOption_lift (x : Transaction α) : (Guarded.lift x).toOption = x.toOption := by
  cases x <;> rfl

end

/-- The second delivery stops where the first one stopped, and changes nothing. -/
theorem Guarded.andThen_stops {α : Type} {b : Billing} {guards guards' : Guarded α}
    {effects : α → Transaction Effect} {effect : Effect}
    (hstop : ∀ a, guards ≠ .ok a) (hsame : guards'.toOption = guards.toOption)
    (h : guards'.andThen b effects = .ok effect) : effect.billing = b := by
  rcases Guarded.andThen_eq_ok h with ⟨hb, -⟩ | ⟨a, ha, -⟩
  · exact hb
  · rw [toOption_eq_some.2 ha] at hsame
    exact absurd (toOption_eq_some.1 hsame.symm) (hstop a)

/-! ## Locked accounts -/

variable {u : Unicode} {b : Billing} {obj metadata : Json} {a : Account}

theorem lockAccount_mem (h : lockAccount u b obj metadata = some a) : a ∈ b.accounts.rows := by
  simp only [lockAccount] at h
  cases haccount : uuidOrNone (metadata.get "account_id") with
  | some accountId =>
    simp only [haccount] at h
    exact Table.find?_mem h
  | none =>
    simp only [haccount] at h
    generalize (if (metadata.get "external_ref").truthy = true then metadata.get "external_ref"
      else obj.get "client_reference_id") = ref at h
    simp only [Option.or_eq_some_iff, Option.bind_eq_some_iff] at h
    rcases h with h | ⟨-, ⟨_, -, h⟩ | ⟨-, _, -, h⟩⟩
    · split at h
      · exact List.mem_of_find?_eq_some h
      · cases h
    · exact List.mem_of_find?_eq_some h
    · exact List.mem_of_find?_eq_some h

theorem lockAccount_congr {b' : Billing} (h : b'.accounts = b.accounts) :
    lockAccount u b' obj metadata = lockAccount u b obj metadata := by
  unfold lockAccount
  rw [h]

/-- A search that the update does not mislead finds the updated row. -/
private theorem find?_map_of_congr {rows : List Account} {p : Account → Bool}
    {g : Account → Account} (hp : ∀ r ∈ rows, p (g r) = p r) :
    (rows.map g).find? p = (rows.find? p).map g := by
  rw [List.find?_map]
  congr 1
  induction rows with
  | nil => rfl
  | cons r rows ih =>
    have hrest : rows.find? (p ∘ g) = rows.find? p :=
      ih fun x hx => hp x (List.mem_cons_of_mem _ hx)
    rw [List.find?_cons, List.find?_cons, hrest, Function.comp_apply, hp r List.mem_cons_self]

/-- The locked account is found again after an update that keeps its identities. -/
theorem lockAccount_update {f : Account → Account} {t : Table Account}
    (h : lockAccount u b obj metadata = some a) (ht : b.accounts.update? a.id f = some t)
    (hid : ∀ r, (f r).id = r.id) (href : ∀ r, (f r).externalRef = r.externalRef)
    (hsubscription : ∀ id, u.visible 512 id = true → a.stripeSubscriptionId = some id →
      (f a).stripeSubscriptionId = some id)
    (hcustomer : ∀ id, a.stripeCustomerId = some id → (f a).stripeCustomerId = some id) :
    lockAccount u { b with accounts := t } obj metadata = some (f a) := by
  have ha := lockAccount_mem h
  let g : Account → Account := fun r => if r.id = a.id then f r else r
  have hrows : t.rows = b.accounts.rows.map g := Table.update?_eq_some.1 ht
  have hga : g a = f a := if_pos rfl
  have hother : ∀ r ∈ b.accounts.rows, g r = r ∨ r = a := by
    intro r hr
    by_cases hk : r.id = a.id
    · exact .inr (b.accounts.eq_of_key_eq hr ha hk)
    · exact .inl (if_neg hk)
  -- a search that finds `a` finds its updated row, a failed search may now find that row
  have hfound : ∀ p : Account → Bool, b.accounts.rows.find? p = some a → p (f a) = true →
      t.rows.find? p = some (f a) := by
    intro p hp hfa
    rw [hrows, find?_map_of_congr, hp, Option.map_some, hga]
    intro r hr
    rcases hother r hr with heq | rfl
    · rw [heq]
    · rw [hga, hfa, List.find?_some hp]
  have hmissed : ∀ p : Account → Bool, b.accounts.rows.find? p = none →
      t.rows.find? p = none ∨ t.rows.find? p = some (f a) := by
    intro p hp
    rcases Option.eq_none_or_eq_some (t.rows.find? p) with hnone | ⟨r', hr'⟩
    · exact .inl hnone
    · have hmem := List.mem_of_find?_eq_some hr'
      rw [hrows] at hmem
      obtain ⟨r, hr, rfl⟩ := List.mem_map.1 hmem
      rcases hother r hr with heq | rfl
      · have hpr := List.find?_some hr'
        rw [heq] at hpr
        exact absurd hpr (List.find?_eq_none.1 hp r hr)
      · exact .inr (hga ▸ hr')
  simp only [lockAccount] at h ⊢
  cases haccount : uuidOrNone (metadata.get "account_id") with
  | some accountId =>
    simp only [haccount] at h ⊢
    have hfind := Table.find?_update_self ht hid
    have hkey : a.id = accountId := Table.find?_key h
    rw [hkey] at hfind
    rw [hfind, h]
    rfl
  | none =>
    simp only [haccount] at h ⊢
    generalize (if (metadata.get "external_ref").truthy = true then metadata.get "external_ref"
      else obj.get "client_reference_id") = ref at h ⊢
    generalize hname : (u.subscriptionId obj).or (u.asId (obj.get "id")) = name at h ⊢
    have hexternal : ∀ x : String, t.rows.find? (fun r => r.externalRef = x) =
        (b.accounts.rows.find? fun r => r.externalRef = x).map g := by
      intro x
      rw [hrows]
      refine find?_map_of_congr fun r hr => ?_
      rcases hother r hr with heq | rfl
      · rw [heq]
      · rw [hga, href]
    have hvisible : ∀ x id, u.asId x = some id → u.visible 512 id = true := by
      intro x id hx
      exact (Option.filter_eq_some_iff.1 hx).2
    have hnamed : ∀ id, name = some id → u.visible 512 id = true := by
      rintro id rfl
      simp only [Unicode.subscriptionId, Option.or_eq_some_iff] at hname
      rcases hname with (hx | ⟨-, hx⟩) | ⟨-, hx⟩ <;> exact hvisible _ _ hx
    simp only [Option.or_eq_some_iff, Option.bind_eq_some_iff] at h ⊢
    rcases h with h | ⟨hnone, h⟩
    · left
      split at h
      case isTrue htruthy =>
        rw [if_pos htruthy, hexternal, h, Option.map_some, hga]
      case isFalse => cases h
    · right
      refine ⟨?_, ?_⟩
      · split at hnone
        case isTrue htruthy => rw [if_pos htruthy, hexternal, hnone, Option.map_none]
        case isFalse htruthy => rw [if_neg htruthy]
      · rcases h with ⟨id, hsome, h⟩ | ⟨hnone, id, hcust, h⟩
        · left
          refine ⟨id, hsome, hfound _ h ?_⟩
          have hsub := List.find?_some h
          simp only [decide_eq_true_eq] at hsub ⊢
          exact hsubscription id (hnamed id hsome) hsub
        · have hnew : t.rows.find? (fun r => r.stripeCustomerId = some id) = some (f a) := by
            refine hfound _ h ?_
            have hc := List.find?_some h
            simp only [decide_eq_true_eq] at hc ⊢
            exact hcustomer id hc
          cases name with
          | none => exact .inr ⟨rfl, id, hcust, hnew⟩
          | some id' =>
            rw [Option.bind_some] at hnone
            rcases hmissed _ hnone with hstill | hnow
            · exact .inr ⟨by simpa using hstill, id, hcust, hnew⟩
            · exact .inl ⟨id', rfl, hnow⟩

end StripeEntitlements
