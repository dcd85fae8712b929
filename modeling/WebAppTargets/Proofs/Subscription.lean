import WebAppTargets.Proofs.Cutting
import WebAppTargets.Proofs.Twins

namespace WebAppTargets

namespace Guid

open Text

variable {s r : List Char} {c : Char}

theorem not_isBlank_of_isHex (h : isHex c) : isBlank c = false := by
  have hranges : (48 ≤ c.toNat ∧ c.toNat ≤ 57) ∨ (97 ≤ c.toNat ∧ c.toNat ≤ 102) ∨
      (65 ≤ c.toNat ∧ c.toNat ≤ 70) := by
    rw [isHex, hexDigit?] at h
    split at h
    · rename_i hdigit
      simp only [Char.isDigit, Bool.and_eq_true, decide_eq_true_eq] at hdigit
      exact .inl hdigit
    · split at h
      · rename_i hlower
        simp only [Bool.and_eq_true, decide_eq_true_eq] at hlower
        exact .inr (.inl hlower)
      · split at h
        · rename_i hupper
          simp only [Bool.and_eq_true, decide_eq_true_eq] at hupper
          exact .inr (.inr hupper)
        · cases h
  rw [← Bool.not_eq_true]
  simp only [isBlank, Bool.or_eq_true, Bool.and_eq_true, decide_eq_true_eq, beq_iff_eq]
  omega

theorem not_isBlank_of_hyphens {i : Nat} {marks : List Nat} (h : hyphens i s = .ok marks) :
    ∀ c ∈ s, isBlank c = false := by
  induction s generalizing i marks with
  | nil => simp
  | cons c r ih =>
      rw [hyphens] at h
      split at h
      · rename_i hc
        cases hr : hyphens (i + 1) r with
        | error f =>
            rw [hr] at h
            cases h
        | ok marks => exact List.forall_mem_cons.2 ⟨hc ▸ rfl, ih hr⟩
      · split at h
        · rename_i hc
          exact List.forall_mem_cons.2 ⟨not_isBlank_of_isHex hc, ih h⟩
        · cases h

theorem not_isBlank_of_isGrouped (h : isGrouped s) : ∀ c ∈ s, isBlank c = false := by
  rw [isGrouped] at h
  split at h
  · rename_i hmarks
    exact not_isBlank_of_hyphens hmarks
  · cases h

theorem eq_of_insideBraces? (h : insideBraces? s = some r) : s = '{' :: (r ++ ['}']) := by
  unfold insideBraces? at h
  split at h
  · exact congrArg _ (eq_append_of_dropFinish? h)
  · cases h

theorem mem_of_afterUrn? (h : afterUrn? s = some r) (hc : c ∈ s) : c.toLower ∈ urn ∨ c ∈ r := by
  rw [afterUrn?] at h
  split at h
  · rename_i hurn
    cases h
    rw [← List.take_append_drop urn.length s, List.mem_append] at hc
    refine hc.imp_left fun hc => ?_
    rw [← hurn]
    exact List.mem_map_of_mem hc
  · cases h

theorem not_isBlank_of_toLower (h : c.toLower ∈ urn) : isBlank c = false := by
  cases hc : isBlank c with
  | false => rfl
  | true =>
      -- no white space is a capital letter, so this would be white space in the prefix itself
      have hlower : c.toLower = c := by
        simp only [isBlank, Bool.or_eq_true, Bool.and_eq_true, decide_eq_true_eq, beq_iff_eq] at hc
        unfold Char.toLower
        rw [dif_neg]
        intro hupper
        have hlo : 65 ≤ c.toNat := hupper.1
        have hhi : c.toNat ≤ 90 := hupper.2
        omega
      rw [hlower] at h
      have hurn : urn.all (!isBlank ·) := by decide
      have hnot := List.all_eq_true.1 hurn c h
      rw [hc] at hnot
      cases hnot

theorem not_isBlank_of_check (h : check s = .ok ()) (hc : c ∈ s) : isBlank c = false := by
  rw [check] at h
  split at h
  · cases h
  · split at h
    · rename_i hsimple
      exact not_isBlank_of_isHex (List.all_eq_true.1 (Bool.and_eq_true_iff.1 hsimple).2 c hc)
    · split at h
      · rename_i r hr
        split at h
        · rename_i hgrouped
          have hr' := not_isBlank_of_isGrouped hgrouped
          rw [grouped?] at hr
          split at hr
          · cases hr
            exact hr' c hc
          · rw [eq_of_insideBraces? hr] at hc
            simp only [List.mem_cons, List.mem_append, List.not_mem_nil, or_false] at hc
            rcases hc with rfl | hc | rfl
            · rfl
            · exact hr' c hc
            · rfl
          · rcases mem_of_afterUrn? hr hc with hc | hc
            · exact not_isBlank_of_toLower hc
            · exact hr' c hc
          · cases hr
        · cases h
      · cases h
      · cases h

end Guid

theorem Text.stripped_eq_self_iff {s : String} (h : ∀ c ∈ (stripped s).toList, isBlank c = false) :
    stripped s = s ↔ ∀ c ∈ s.toList, isBlank c = false := by
  constructor
  · intro hs
    rwa [hs] at h
  · intro hs
    have htrimmed : IsTrimmed s.toList :=
      ⟨fun c hc => hs c (List.mem_of_head? hc), fun c hc => hs c (List.mem_of_getLast? hc)⟩
    rw [stripped, trim_eq_self_iff.2 htrimmed, String.ofList_toList]

theorem Naming.checkSubscription_eq_ok_iff {id : String} :
    checkSubscription id = .ok () ↔ Guid.check (Text.stripped id).toList = .ok () := by
  rw [checkSubscription, mapError_eq_ok_iff, Text.toList_stripped]

theorem Action.Ends.unique {σ α : Type} {c d e : σ} {x : Action σ α} {q p : Except Error α}
    (h : Ends c x q d) (h' : Ends c x p e) : q = p ∧ d = e := by
  obtain ⟨hq, hd⟩ := h { client := c } rfl
  obtain ⟨hp, he⟩ := h' { client := c } rfl
  exact ⟨hq.symm.trans hp, hd.symm.trans he⟩

def Config.withSubscription (c : Config) (id : String) : Config :=
  c.withAccount { c.account with subscription := id }

namespace Rest

open WebAppTargets.Action

variable {network : Network} {c : Config} {r t : Rest} {resourceGroup : String}

def Opens (network : Network) (c : Config) (r : Rest) : Prop :=
  Ends (ofConfig network c) Client.init (.ok ()) r

def opened (network : Network) (c : Config) : Rest :=
  { ofConfig network c with
    base := (ofConfig network c).baseOverride.getD (withoutSlash c.account.managementEndpoint)
    isOpen := true }

theorem check_ends (r : Rest) {q : Except NameFault Unit}
    (h : Naming.checkSubscription r.account.subscription = q) :
    Ends r (Action.ofExcept ((Naming.checkSubscription r.account.subscription).mapError .ofName))
      (q.mapError .ofName) r :=
  h ▸ Ends.ofExcept _ _

def ready (r : Rest) : Rest :=
  { r with
    base := r.baseOverride.getD (withoutSlash r.account.managementEndpoint)
    isOpen := true }

theorem init_ends (r : Rest) (hid : Naming.checkSubscription r.account.subscription = .ok ())
    (htoken : Text.isBlankText r.token = false) : Ends r Client.init (.ok ()) r.ready := by
  refine (Ends.client r).bind ((check_ends r hid).bind ?_)
  rw [if_neg (by rw [htoken]; exact Bool.false_ne_true)]
  cases hbase : r.baseOverride with
  | none =>
      rw [show r.ready = { r with base := withoutSlash r.account.managementEndpoint, isOpen := true } by
        rw [ready, hbase, Option.getD_none]]
      exact (Ends.emit _ _).bind (Ends.modify _ _)
  | some base =>
      rw [show r.ready = { r with base, isOpen := true } by rw [ready, hbase, Option.getD_some]]
      exact Ends.modify _ _

theorem init_fails (r : Rest) (h : ¬(Naming.checkSubscription r.account.subscription = .ok () ∧
      Text.isBlankText r.token = false)) : ∃ e, Ends r Client.init (.error e) r := by
  cases hid : Naming.checkSubscription r.account.subscription with
  | error f => exact ⟨_, (Ends.client r).bind (check_ends r hid).bind_error⟩
  | ok _ =>
      have htoken : Text.isBlankText r.token := by
        rw [← Bool.not_eq_false]
        exact fun ht => h ⟨hid, ht⟩
      refine ⟨.notAuthenticated, (Ends.client r).bind ((check_ends r hid).bind ?_)⟩
      rw [if_pos htoken]
      exact (Ends.fail _ _).bind_error

theorem opens_iff : Opens network c r ↔
    (Naming.checkSubscription c.account.subscription = .ok () ∧
      Text.isBlankText (ofConfig network c).token = false) ∧ r = opened network c := by
  constructor
  · intro h
    by_cases hsound : Naming.checkSubscription c.account.subscription = .ok () ∧
        Text.isBlankText (ofConfig network c).token = false
    · exact ⟨hsound, (h.unique (init_ends (ofConfig network c) hsound.1 hsound.2)).2⟩
    · obtain ⟨e, hfails⟩ := init_fails (ofConfig network c) hsound
      cases (h.unique hfails).1
  · rintro ⟨⟨hid, htoken⟩, rfl⟩
    exact init_ends (ofConfig network c) hid htoken

def addressIn (base id resourceGroup : String) : String :=
  s!"{base}/subscriptions/{id}/resourceGroups/{resourceGroup}/providers/Microsoft.Web"

theorem addressIn_inj {base id id' resourceGroup : String} :
    addressIn base id resourceGroup = addressIn base id' resourceGroup ↔ id = id' := by
  constructor
  · intro h
    have h := congrArg String.toList h
    simpa [addressIn, toString, String.toList_inj] using h
  · rintro rfl
    rfl

theorem opens_withSubscription (h : Opens network c r) {id : String}
    (hid : Text.stripped id = Text.stripped c.account.subscription) :
    Opens network (c.withSubscription id) (opened network (c.withSubscription id)) := by
  obtain ⟨⟨hcheck, htoken⟩, -⟩ := opens_iff.1 h
  rw [Naming.checkSubscription_eq_ok_iff, ← hid, ← Naming.checkSubscription_eq_ok_iff] at hcheck
  exact opens_iff.2 ⟨⟨hcheck, htoken⟩, rfl⟩

theorem opened_twins (network : Network) (c : Config) {id : String}
    (h : Url.unbroken id.toList = Url.unbroken c.account.subscription.toList) :
    Twins (opened network c) (opened network (c.withSubscription id)) where
  subscription := h.symm
  token := rfl
  version := rfl
  base := rfl
  isOpen := rfl
  network := ⟨rfl, rfl, rfl⟩

/-- In the addresses of an open client the subscription stands as the account gives it. What was checked
is the id without the white space around it, so just an id without white space is used as it was checked.
Ids that differ in the white space around them alone pass the check together, yet lead to different
addresses; the service cannot tell them apart when they differ in nothing but tabs and line breaks. -/
theorem subscription_as_given (h : Opens network c r) :
    (∀ x ∈ (Text.stripped c.account.subscription).toList, Text.isBlank x = false) ∧
    (∀ resourceGroup, Naming.checkResourceGroup resourceGroup = .ok () →
      r.groupUrl resourceGroup = .ok (addressIn r.base c.account.subscription resourceGroup) ∧
      (r.groupUrl resourceGroup =
          .ok (addressIn r.base (Text.stripped c.account.subscription) resourceGroup) ↔
        ∀ x ∈ c.account.subscription.toList, Text.isBlank x = false)) ∧
    ∀ id, Text.stripped id = Text.stripped c.account.subscription →
      ∃ t, Opens network (c.withSubscription id) t ∧
        (∀ resourceGroup, Naming.checkResourceGroup resourceGroup = .ok () →
          (t.groupUrl resourceGroup = r.groupUrl resourceGroup ↔ id = c.account.subscription)) ∧
        (Url.unbroken id.toList = Url.unbroken c.account.subscription.toList →
          ∀ (op : Operation) (w v : World Rest), w.client = r → v.client = t →
            (op.perform w).1 = (op.perform v).1 ∧
              (op.perform w).2.client.network.received.map Request.seen =
                (op.perform v).2.client.network.received.map Request.seen) := by
  obtain ⟨⟨hcheck, -⟩, rfl⟩ := opens_iff.1 h
  have hplain : ∀ x ∈ (Text.stripped c.account.subscription).toList, Text.isBlank x = false :=
    fun x hx => Guid.not_isBlank_of_check (Naming.checkSubscription_eq_ok_iff.1 hcheck) hx
  have haddress {c : Config} {resourceGroup : String}
      (hgroup : Naming.checkResourceGroup resourceGroup = .ok ()) :
      (opened network c).groupUrl resourceGroup =
        .ok (addressIn (opened network c).base c.account.subscription resourceGroup) :=
    groupUrl_eq _ hgroup
  refine ⟨hplain, fun resourceGroup hgroup => ⟨haddress hgroup, ?_⟩, fun id hid => ?_⟩
  · rw [haddress hgroup, Except.ok.injEq, addressIn_inj, eq_comm]
    exact Text.stripped_eq_self_iff hplain
  · refine ⟨_, opens_withSubscription h hid, fun resourceGroup hgroup => ?_, fun hid op w v hw hv => ?_⟩
    · rw [haddress hgroup, haddress hgroup, Except.ok.injEq]
      exact addressIn_inj
    · have htwins : Twins w.client v.client := by
        rw [hw, hv]
        exact opened_twins network c hid
      obtain ⟨hresult, hafter⟩ := perform_mirror op w v htwins
      exact ⟨hresult, hafter.network.seen⟩

section Padded

def localConfig (id : String) : Config where
  kind := .rest
  account := { subscription := id }
  options := .ofList [("access_token", "token"), ("base_url", "http://[::1]")]

def plainId : String := "dad814cf-1c1e-4953-b950-c373a821c34f"

def tabbedId : String := "\tdad814cf-1c1e-4953-b950-c373a821c34f"

def spacedId : String := " dad814cf-1c1e-4953-b950-c373a821c34f"

theorem localConfig_opens : ∀ id ∈ [tabbedId, plainId, spacedId],
    Opens {} (localConfig id) (opened {} (localConfig id)) := by
  have hsound : ∀ id ∈ [tabbedId, plainId, spacedId],
      Naming.checkSubscription (localConfig id).account.subscription = .ok () ∧
        Text.isBlankText (ofConfig {} (localConfig id)).token = false := by
    decide
  exact fun id hid => opens_iff.2 ⟨hsound id hid, rfl⟩

theorem subscription_as_given_tab :
    Text.stripped tabbedId = Text.stripped plainId ∧
    Opens {} (localConfig plainId) (opened {} (localConfig plainId)) ∧
    ∃ t, Opens {} (localConfig tabbedId) t ∧
      t.groupUrl "rg" ≠ (opened {} (localConfig plainId)).groupUrl "rg" ∧
      ((Operation.listWebApps "rg").perform { client := opened {} (localConfig plainId) }).1 =
        ((Operation.listWebApps "rg").perform { client := t }).1 := by
  have hstripped : Text.stripped tabbedId = Text.stripped plainId := by decide
  have hopens := localConfig_opens plainId (by simp)
  obtain ⟨-, -, hother⟩ := subscription_as_given hopens
  obtain ⟨t, ht, haddress, halike⟩ := hother tabbedId hstripped
  refine ⟨hstripped, hopens, t, ht, fun h => ?_, (halike (by decide) _ _ _ rfl rfl).1⟩
  exact absurd ((haddress "rg" (by decide)).1 h) (by decide)

theorem listWebApps_exhausted {url : String} (hopen : r.isOpen) (hreplies : r.network.replies = [])
    (hgroup : Naming.checkResourceGroup resourceGroup = .ok ())
    (hurl : r.versioned (r.groupAddress resourceGroup ++ "/sites") = url) (hreach : r.Reaches url) :
    ∃ e, Ends r (Operation.listWebApps resourceGroup).perform (.error e)
      (r.after [⟨.get, url, r.token, none⟩]) := by
  have hreply : r.reply 0 = .exhausted := by simp [reply, hreplies]
  have hrequest := request_ends hopen .get none Page.decode hreach
  rw [hreply, Reply.read_of_failure rfl] at hrequest
  have hlisting : Ends r (listing url) (.error Reply.exhausted.fault)
      (r.after [⟨.get, url, r.token, none⟩]) := by
    refine (Ends.client r).bind ?_
    rw [hreplies]
    exact hrequest.bind_error
  have hlocate : Ends r (locate (·.groupUrl resourceGroup) "/sites") (.ok url) r :=
    hurl ▸ locate_ends (groupUrl_eq r hgroup) "/sites"
  exact ⟨_, (hlocate.bind (hlisting.inContext _).bind_error).bind_error⟩

def listingUrl (id : String) : String :=
  (opened {} (localConfig id)).versioned ((opened {} (localConfig id)).groupAddress "rg" ++ "/sites")

def targets (id : String) : List String :=
  let w : World Rest := { client := opened {} (localConfig id) }
  ((Operation.listWebApps "rg").perform w).2.client.network.received.map Request.target

theorem targets_eq (id : String) (h : isWritable (listingUrl id).toList) :
    targets id = [Request.target ⟨.get, listingUrl id, "token", none⟩] := by
  have htoken : (⟨.get, "", "token", none⟩ : Request).hasPlainToken := by decide
  obtain ⟨e, hends⟩ := listWebApps_exhausted (r := opened {} (localConfig id)) rfl rfl
    (show Naming.checkResourceGroup "rg" = .ok () from rfl) rfl (reaches_of_isWritable _ rfl htoken h)
  obtain ⟨-, hclient⟩ := hends { client := opened {} (localConfig id) } rfl
  exact congrArg (·.network.received.map Request.target) hclient

/-- White space that is no tab or line break goes out with the id, percent encoded. -/
theorem spaced_subscription_sent :
    Text.stripped spacedId = Text.stripped plainId ∧
    (∀ id ∈ [plainId, spacedId], Opens {} (localConfig id) (opened {} (localConfig id))) ∧
    (opened {} (localConfig spacedId)).groupUrl "rg" = .ok (addressIn "http://[::1]" spacedId "rg") ∧
    spacedId ≠ Text.stripped spacedId ∧
    targets plainId = ["/subscriptions/dad814cf-1c1e-4953-b950-c373a821c34f/resourceGroups/rg/providers/Microsoft.Web/sites?api-version=2022-03-01"] ∧
    targets spacedId = ["/subscriptions/%20dad814cf-1c1e-4953-b950-c373a821c34f/resourceGroups/rg/providers/Microsoft.Web/sites?api-version=2022-03-01"] := by
  refine ⟨by decide +kernel, fun id hid => localConfig_opens id (.tail _ hid), groupUrl_eq _ rfl,
    by decide +kernel, ?_, ?_⟩
  · rw [targets_eq plainId (by decide +kernel)]
    decide +kernel
  · rw [targets_eq spacedId (by decide +kernel)]
    decide +kernel

end Padded

end Rest

end WebAppTargets
