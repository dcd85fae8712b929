import WebAppTargets.Proofs.Exchange

namespace WebAppTargets

namespace Rest

open WebAppTargets.Action

variable {α : Type} (r : Rest)

def LinksTo (n : Nat) (url : String) : Prop :=
  ∃ page, (r.reply n).read Page.decode = .ok page ∧ page.next = some url

theorem exchange_ends_of_not_open (hopen : ¬r.isOpen) (method : Method) (url : String)
    (body : Option Json.Value) : Ends r (exchange method url body) (.error .notAuthenticated) r := by
  refine (Ends.emit r _).bind ((Ends.client r).bind ?_)
  rw [if_neg hopen]
  exact Ends.fail r _

variable {r} in
theorem request_refuses (hopen : ¬r.isOpen) (d : Json.Decoder α) (method : Method) (url : String)
    (body : Option Json.Value) : Ends r (request d method url body) (.error .notAuthenticated) r :=
  (exchange_ends_of_not_open r hopen method url body).bind_error

theorem request_sends (d : Json.Decoder α) (method : Method) (url : String)
    (body : Option Json.Value) :
    Ends r (request d method url body) ((r.reply 0).read d) (r.after [⟨method, url, r.token, body⟩]) ∨
      ∃ e, Ends r (request d method url body) (.error e) r := by
  by_cases hopen : r.isOpen
  · by_cases hreach : r.Reaches url
    · exact .inl (request_ends hopen method body d hreach)
    · obtain ⟨_, h⟩ := request_ends_of_not_reaches hopen method body d hreach
      exact .inr ⟨_, h⟩
  · exact .inr ⟨_, request_refuses hopen d method url body⟩

structure Follows (url : String) (sent : List Request) : Prop where
  method : ∀ q ∈ sent, q.method = .get
  first : ∀ q ∈ sent.head?, q.url = url
  next : ∀ n q, sent[n + 1]? = some q → r.LinksTo n q.url

variable {r} {url next : String} {q : Request} {sent : List Request}

theorem Follows.nil : r.Follows url [] := ⟨by simp, by simp, by simp⟩

theorem Follows.single (token : String) : r.Follows url [⟨.get, url, token, none⟩] :=
  ⟨by simp, by simp, by simp⟩

theorem Follows.cons (hmethod : q.method = .get) (hlink : r.LinksTo 0 next)
    (h : (r.after [q]).Follows next sent) : r.Follows q.url (q :: sent) where
  method := List.forall_mem_cons.2 ⟨hmethod, h.method⟩
  first := by simp
  next n p hp := by
    rw [List.getElem?_cons_succ] at hp
    cases n with
    | zero =>
        rw [h.first p (List.head?_eq_getElem?.trans hp)]
        exact hlink
    | succ n =>
        have hlater := h.next n p hp
        rwa [LinksTo, reply_after, List.length_singleton, Nat.add_comm] at hlater

theorem pages_sends (r : Rest) (n : Nat) (url : String) :
    ∃ result sent, Ends r (pages n url) result (r.after sent) ∧ r.Follows url sent := by
  -- on the number of further pages; the client of the next page has one reply less
  induction n generalizing r url with
  | zero =>
      rcases request_sends r Page.decode .get url none with h | ⟨e, h⟩
      · obtain ⟨q, hq⟩ := h.bind_quiet fun page => ⟨_, Ends.value _ page.sites⟩
        exact ⟨q, _, hq, .single r.token⟩
      · exact ⟨_, [], by rw [after_nil]; exact h.bind_error, .nil⟩
  | succ n ih =>
      rcases request_sends r Page.decode .get url none with h | ⟨e, h⟩
      · cases hread : (r.reply 0).read Page.decode with
        | error e => exact ⟨_, _, (hread ▸ h).bind_error, .single r.token⟩
        | ok page =>
            rw [hread] at h
            cases hnext : page.next with
            | none =>
                refine ⟨.ok page.sites, _, h.bind ?_, .single r.token⟩
                rw [hnext]
                exact Ends.value _ _
            | some next =>
                obtain ⟨_, sent, hends, hfollows⟩ := ih (r.after [⟨.get, url, r.token, none⟩]) next
                rw [after_after] at hends
                obtain ⟨q, hq⟩ := hends.bind_quiet fun rest => ⟨_, Ends.value _ (page.sites ++ rest)⟩
                refine ⟨q, _, h.bind ?_, .cons rfl ⟨page, hread, hnext⟩ hfollows⟩
                rw [hnext]
                exact hq
      · exact ⟨_, [], by rw [after_nil]; exact h.bind_error, .nil⟩

theorem listing_sends (r : Rest) (url : String) :
    ∃ result sent, Ends r (listing url) result (r.after sent) ∧ r.Follows url sent := by
  obtain ⟨result, sent, hends, hfollows⟩ := pages_sends r r.network.replies.length url
  exact ⟨result, sent, (Ends.client r).bind hends, hfollows⟩

end Rest

end WebAppTargets
