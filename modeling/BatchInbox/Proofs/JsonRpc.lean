import BatchInbox.Proofs.Replies
import Mathlib

/-!
# Calls of one client

A client makes calls one after another.  Whatever answers there will ever be, in the order in which
requests are sent: each call takes answers up to the first that does not pass, or as many as it may
have, and comes to what the last of them comes to.  So a later call goes on with the answers where the
one before it has stopped, and with the numbers as well: the client numbers its requests, and not its
calls.

## What is here

* `Sent`, `Transport.answering` — a network where everything that is sent gets the next answer.
* `JsonRpc.Client.sent`, `JsonRpc.Client.result` — what a client sends for calls, and what comes of one.
* `JsonRpc.eq_of_request_eq` — the number stands in the request.
* `JsonRpc.Client.step_make` — one call; `JsonRpc.Client.numbered_sent` — all requests of a client.
* `JsonRpc.Client.Retries` — what a client does for a call behind others;
  `JsonRpc.Client.calls_retried_and_numbered` says that it does.
-/

set_option autoImplicit false
namespace BatchInbox

/-- A request that was sent. -/
inductive Sent where
  | get (url : Url)
  | post (url : Url) (body : List Char)
  deriving DecidableEq

/-- A network with an answer to whatever is sent next.  Its state is what was sent so far. -/
def Transport.answering (answers : Nat → Except TransportError HttpResponse) :
    Transport (List Sent) where
  get url := .ofStep fun sent => (answers sent.length, sent ++ [.get url])
  post url body := .ofStep fun sent => (answers sent.length, sent ++ [.post url body])

namespace JsonRpc

/-! ## Numbers -/

/-- In front of their numbers all requests are alike. -/
theorem exists_requestHead : ∃ head, ∀ id method params, ∃ rest,
    request id method params = head ++ (Decimal.digits id ++ ',' :: rest) := by
  refine ⟨'\x7b' :: '"' :: Json.escape "jsonrpc".toList ++ '"' :: ':' :: (Json.ofString "2.0").render ++
    ',' :: '"' :: Json.escape "id".toList ++ ['"', ':'], fun id method params => ?_⟩
  refine ⟨'"' :: Json.escape "method".toList ++ '"' :: ':' :: (Json.ofString method).render ++
    Json.renderFields [(Json.escape "params".toList, params)], ?_⟩
  simp only [request, Json.ofFields, List.map_cons, List.map_nil, Json.render, Json.renderFields,
    List.append_assoc, List.cons_append, List.nil_append]

/-- The number stands in the request. -/
theorem eq_of_request_eq {m n : Nat} {method method' : String} {params params' : Json}
    (h : request m method params = request n method' params') : m = n := by
  obtain ⟨head, hhead⟩ := exists_requestHead
  obtain ⟨rest, hm⟩ := hhead m method params
  obtain ⟨rest', hn⟩ := hhead n method' params'
  rw [hm, hn] at h
  have hdigits : Decimal.digits m = Decimal.digits n := by
    have htake := congrArg (List.takeWhile Decimal.isDigit) (List.append_cancel_left h)
    rwa [List.takeWhile_append_of_pos fun c => Decimal.isDigit_of_mem_digits,
      List.takeWhile_append_of_pos fun c => Decimal.isDigit_of_mem_digits,
      List.takeWhile_cons_of_neg (by decide), List.takeWhile_cons_of_neg (by decide),
      List.append_nil, List.append_nil] at htake
  rw [← Decimal.value_digits m, hdigits, Decimal.value_digits]

/-- The request with a number for a call. -/
def Call.numbered (call : Call) (url : Url) (number : Nat) : Sent :=
  .post url (request (number % UInt64.size) call.method call.params)

/-- The requests for a call, as many as that, behind `start` others. -/
def Call.numberedFrom (call : Call) (url : Url) (start count : Nat) : List Sent :=
  (List.range count).map fun i => call.numbered url (start + i + 1)

theorem Call.length_numberedFrom (call : Call) (url : Url) (start count : Nat) :
    (call.numberedFrom url start count).length = count := by
  simp [numberedFrom]

theorem Call.getElem_numberedFrom (call : Call) (url : Url) (start count i : Nat)
    (h : i < (call.numberedFrom url start count).length) :
    (call.numberedFrom url start count)[i] = call.numbered url (start + i + 1) := by
  simp [numberedFrom]

theorem Call.numberedFrom_succ (call : Call) (url : Url) (start count : Nat) :
    call.numberedFrom url start (count + 1) =
      call.numberedFrom url start count ++ [call.numbered url (start + count + 1)] := by
  simp [numberedFrom, List.range_succ]

namespace Client

/-- Makes a call. -/
def make {σ : Type} (c : Client) (transport : Transport σ) (call : Call) :
    Effect (σ × Word) RpcError call.Result :=
  c.call transport call.method call.params call.read

section
variable (c : Client) (answers : Nat → Except TransportError HttpResponse)

/-- What a new client leaves behind when it has made calls. -/
def after (calls : List Call) : List Sent × Word :=
  calls.foldl (fun s call => ((c.make (.answering answers) call).step s).2) ([], firstId)

/-- What a new client sends for calls. -/
def sent (calls : List Call) : List Sent := (c.after answers calls).1

/-- What comes of a call that a new client makes behind others. -/
def result (before : List Call) (call : Call) : Except RpcError call.Result :=
  ((c.make (.answering answers) call).step (c.after answers before)).1

theorem after_concat (before : List Call) (call : Call) :
    c.after answers (before ++ [call]) =
      ((c.make (.answering answers) call).step (c.after answers before)).2 := by
  rw [after, List.foldl_append]
  rfl

end

variable {c : Client} {answers : Nat → Except TransportError HttpResponse} {url : Url}

/-! ## Attempts -/

theorem step_nextId {σ : Type} (s : σ) (id : Word) :
    (nextId : Effect (σ × Word) RpcError Word).step (s, id) = (.ok id, (s, id + 1)) := rfl

theorem step_sendTo {σ : Type} {text : String} (hurl : Url.parse text = .ok url)
    (send : Url → Effect σ TransportError HttpResponse) (s : σ) :
    (sendTo text send).step s = (((send url).step s).1.mapError .transport, ((send url).step s).2) := by
  rw [sendTo, hurl, Effect.step_mapError]
  rcases (send url).step s with ⟨e | response, s'⟩ <;> rfl

theorem step_callOnce (hurl : Url.parse (trimSlashes c.url) = .ok url) (call : Call) (log : List Sent)
    (id : Word) :
    (c.callOnce (.answering answers) call.method call.params call.read).step (log, id) =
      (call.outcome (answers log.length),
        (log ++ [.post url (request id.toNat call.method call.params)], id + 1)) := by
  have hpost (body : List Char) : ((Transport.answering answers).post url body).step log =
      (answers log.length, log ++ [.post url body]) := rfl
  rw [callOnce, Effect.step_bind, step_nextId]
  dsimp only
  rw [Effect.step_bind, Effect.step_onFst, step_sendTo hurl, hpost]
  rcases answers log.length with e | response
  · rfl
  · dsimp only [Except.mapError, Call.outcome]
    cases response.isSuccess
    · rfl
    · simp only [Bool.not_true, Bool.false_eq_true, if_false, if_true]
      cases readResponse call.method call.read response.body <;> rfl

/-- What a client leaves behind that has sent these requests, and numbered them from 1 on. -/
def counted (log : List Sent) : List Sent × Word := (log, (log.length + 1).toUInt64)

theorem step_callOnce_counted (hurl : Url.parse (trimSlashes c.url) = .ok url) (call : Call)
    (log : List Sent) :
    (c.callOnce (.answering answers) call.method call.params call.read).step (counted log) =
      (call.outcome (answers log.length),
        counted (log ++ [call.numbered url (log.length + 1)])) := by
  have hnext : (log.length + 1).toUInt64 + 1 = (log.length + 1 + 1).toUInt64 :=
    (UInt64.ofNat_add (log.length + 1) 1).symm
  rw [counted, step_callOnce hurl, hnext, counted, List.length_append]
  rfl

/-- Each attempt sends the next number, and gets the next answer. -/
theorem tries_callOnce (hurl : Url.parse (trimSlashes c.url) = .ok url) (call : Call)
    (log : List Sent) (n : Nat) :
    tries (c.callOnce (.answering answers) call.method call.params call.read) (counted log) n =
      (call.outcome (answers (log.length + n)),
        counted (log ++ call.numberedFrom url log.length (n + 1))) := by
  induction n with
  | zero => exact step_callOnce_counted hurl call log
  | succ n ih =>
    rw [tries, ih, step_callOnce_counted hurl, List.length_append, Call.length_numberedFrom,
      call.numberedFrom_succ url log.length (n + 1), List.append_assoc]

variable (answers) in
/-- **One call**, behind other requests: it sends requests up to the first whose answer does not pass,
or as many as it may, and comes to what the last of them comes to. -/
theorem step_make (hurl : Url.parse (trimSlashes c.url) = .ok url) (call : Call) (log : List Sent) :
    ∃ k, IsLeast {n | 0 < n ∧
        (n = max 1 c.maxAttempts ∨ ¬IsPassing (answers (log.length + (n - 1))))} k ∧
      (c.make (.answering answers) call).step (counted log) =
        (call.outcome (answers (log.length + (k - 1))),
          counted (log ++ call.numberedFrom url log.length k)) := by
  obtain ⟨k, ⟨hk, hleast⟩, hstep⟩ :=
    step_withRetries (c.callOnce (.answering answers) call.method call.params call.read)
      (attempts c.maxAttempts - 1) (counted log)
  have hmost : attempts c.maxAttempts = max 1 c.maxAttempts := rfl
  -- Attempts are counted from 0, and requests from 1 on.
  have hmem (n : Nat) : n ∈ {n | n = attempts c.maxAttempts - 1 ∨ ¬IsFleeting (tries
        (c.callOnce (.answering answers) call.method call.params call.read) (counted log) n).1} ↔
      n + 1 = max 1 c.maxAttempts ∨ ¬IsPassing (answers (log.length + n)) := by
    show n = _ ∨ ¬IsFleeting _ ↔ _
    rw [tries_callOnce hurl, isFleeting_outcome_iff]
    exact or_congr (by omega) Iff.rfl
  refine ⟨k + 1, ⟨⟨Nat.succ_pos k, (hmem k).1 hk⟩, ?_⟩, ?_⟩
  · rintro n ⟨hpos, hn⟩
    obtain ⟨n, rfl⟩ := Nat.exists_eq_succ_of_ne_zero (Nat.ne_of_gt hpos)
    exact Nat.succ_le_succ (hleast ((hmem n).2 hn))
  · rw [make, Client.call, hstep, tries_callOnce hurl]
    rfl

/-! ## Calls one after another -/

theorem after_eq_counted (hurl : Url.parse (trimSlashes c.url) = .ok url) (calls : List Call) :
    c.after answers calls = counted (c.sent answers calls) := by
  induction calls using List.reverseRecOn with
  | nil => rfl
  | append_singleton before call ih =>
    obtain ⟨k, -, hstep⟩ := step_make answers hurl call (c.sent answers before)
    rw [sent, after_concat, ih, hstep]
    rfl

variable (answers) in
/-- One call behind others: what is sent, and what comes of it. -/
theorem sent_concat (hurl : Url.parse (trimSlashes c.url) = .ok url) (before : List Call)
    (call : Call) :
    ∃ k, IsLeast {n | 0 < n ∧ (n = max 1 c.maxAttempts ∨
        ¬IsPassing (answers ((c.sent answers before).length + (n - 1))))} k ∧
      c.sent answers (before ++ [call]) = c.sent answers before ++
        call.numberedFrom url (c.sent answers before).length k ∧
      Outcome call (answers ((c.sent answers before).length + (k - 1)))
        (c.result answers before call) := by
  obtain ⟨k, hk, hstep⟩ := step_make answers hurl call (c.sent answers before)
  refine ⟨k, hk, ?_, outcome_iff.2 ?_⟩
  · rw [sent, after_concat, after_eq_counted hurl, hstep]
    rfl
  · rw [result, after_eq_counted hurl, hstep]

/-- The requests are numbered from 1 on, whichever calls they are for. -/
theorem numbered_sent (hurl : Url.parse (trimSlashes c.url) = .ok url) (calls : List Call) :
    ∀ i (h : i < (c.sent answers calls).length),
      ∃ call ∈ calls, (c.sent answers calls)[i] = call.numbered url (i + 1) := by
  induction calls using List.reverseRecOn with
  | nil =>
    intro i h
    cases h
  | append_singleton before call ih =>
    obtain ⟨k, -, hsent, -⟩ := sent_concat answers hurl before call
    intro i h
    simp only [hsent]
    rw [List.getElem_append]
    split
    · rename_i hold
      obtain ⟨earlier, hmem, heq⟩ := ih i hold
      exact ⟨earlier, List.mem_append_left _ hmem, heq⟩
    · rename_i hnew
      refine ⟨call, List.mem_append_right _ (List.mem_singleton_self call), ?_⟩
      have hindex : (c.sent answers before).length + (i - (c.sent answers before).length) = i := by
        omega
      rw [Call.getElem_numberedFrom, hindex]

/-- No request is sent twice, until the numbers have run out. -/
theorem nodup_sent (hurl : Url.parse (trimSlashes c.url) = .ok url) (calls : List Call)
    (hfits : (c.sent answers calls).length ≤ UInt64.size) : (c.sent answers calls).Nodup := by
  refine List.pairwise_iff_getElem.2 fun i j hi hj hlt heq => ?_
  obtain ⟨call, -, hcall⟩ := numbered_sent hurl calls i hi
  obtain ⟨call', -, hcall'⟩ := numbered_sent hurl calls j hj
  rw [hcall, hcall', Call.numbered, Call.numbered] at heq
  injection heq with _ hbody
  have hnumber := eq_of_request_eq hbody
  rw [show UInt64.size = 18446744073709551616 from rfl] at hfits hnumber
  omega

/-! ## A URL that cannot be used -/

theorem step_make_of_badUrl {cause : Url.Error} (hurl : Url.parse (trimSlashes c.url) = .error cause)
    (call : Call) (log : List Sent) (id : Word) :
    (c.make (.answering answers) call).step (log, id) =
      (.error (.transport (.badUrl cause)), (log, id + 1)) := by
  have hstep : (c.callOnce (.answering answers) call.method call.params call.read).step (log, id) =
      (.error (.transport (.badUrl cause)), (log, id + 1)) := by
    rw [callOnce, Effect.step_bind, step_nextId]
    dsimp only
    rw [Effect.step_bind, Effect.step_onFst, sendTo, hurl, Effect.step_throw]
  rw [make, Client.call, step_withRetries_of_settled, hstep]
  rw [hstep]
  rintro ⟨_, ⟨⟩, hretry⟩
  cases hretry

theorem sent_of_badUrl {cause : Url.Error} (hurl : Url.parse (trimSlashes c.url) = .error cause)
    (calls : List Call) : c.sent answers calls = [] := by
  induction calls using List.reverseRecOn with
  | nil => rfl
  | append_singleton before call ih =>
    rw [sent, after_concat, step_make_of_badUrl hurl]
    exact ih

/-! ## The law -/

/-- What a client that can reach its node does for a call behind others. -/
structure Retries (c : Client) (answers : Nat → Except TransportError HttpResponse) (url : Url)
    (before : List Call) (call : Call) : Prop where
  /-- It sends requests up to the first whose answer does not pass, or as many as it may, and the call
  comes to what the last answer does. -/
  least : ∃ k, IsLeast {n | 0 < n ∧ (n = max 1 c.maxAttempts ∨
      ¬IsPassing (answers ((c.sent answers before).length + (n - 1))))} k ∧
    c.sent answers (before ++ [call]) =
      c.sent answers before ++ call.numberedFrom url (c.sent answers before).length k ∧
    Outcome call (answers ((c.sent answers before).length + (k - 1))) (c.result answers before call)
  /-- All that was ever sent is numbered from 1 on. -/
  numbered : ∀ i (h : i < (c.sent answers (before ++ [call])).length),
    ∃ made ∈ before ++ [call], (c.sent answers (before ++ [call]))[i] = made.numbered url (i + 1)
  /-- So nothing is sent twice, as long as there are numbers. -/
  once : (c.sent answers (before ++ [call])).length ≤ UInt64.size →
    (c.sent answers (before ++ [call])).Nodup

/-- **Every call of a client**, whatever was called before and whatever the node will answer, takes the
answers up to the first that does not pass, and all requests of the client are numbered one after
another.  A client with a URL that cannot be used sends nothing. -/
theorem calls_retried_and_numbered (c : Client)
    (answers : Nat → Except TransportError HttpResponse) (before : List Call) (call : Call) :
    (∀ url, Url.parse (trimSlashes c.url) = .ok url → c.Retries answers url before call) ∧
      ∀ cause, Url.parse (trimSlashes c.url) = .error cause →
        c.sent answers (before ++ [call]) = [] ∧
          c.result answers before call = .error (.transport (.badUrl cause)) := by
  refine ⟨fun url hurl => ⟨?_, ?_, ?_⟩, fun cause hurl => ⟨?_, ?_⟩⟩
  · exact sent_concat answers hurl before call
  · exact numbered_sent hurl (before ++ [call])
  · exact nodup_sent hurl (before ++ [call])
  · exact sent_of_badUrl hurl (before ++ [call])
  · rw [result, step_make_of_badUrl hurl]

/-- A client with up to five attempts for a call. -/
def patient : Client := ⟨"http://node/", 5⟩

/-- A node that is down twice, and then has an error to tell, next to a result. -/
def wakingNode (n : Nat) : Except TransportError HttpResponse :=
  let body := "\x7b\"result\":1,\"error\":\x7b\"code\":-3,\"message\":\"no\"\x7d\x7d"
  if n < 2 then .ok ⟨503, []⟩ else .ok ⟨200, body.toList.map fun c => c.toNat.toUInt8⟩

/-- A call without parameters. -/
def blockNumber : Call := ⟨String, "eth_blockNumber", .array [], Json.toString?⟩

theorem calls_retried_and_numbered_wakingNode : ∃ url,
    Url.parse (trimSlashes patient.url) = .ok url ∧
      patient.sent wakingNode [blockNumber] = [1, 2, 3].map (blockNumber.numbered url) ∧
      patient.result wakingNode [] blockNumber = .error (.rpc (-3) "no") := by
  have hurl : Url.parse (trimSlashes patient.url) = .ok ⟨false, "node".toList, none, ['/']⟩ := rfl
  obtain ⟨⟨k, ⟨⟨hpos, hk⟩, hleast⟩, hsent, houtcome⟩, -, -⟩ :=
    (calls_retried_and_numbered patient wakingNode [] blockNumber).1 _ hurl
  have hdown : ∀ n < 2, IsPassing (wakingNode n) := by
    intro n hn
    rw [wakingNode, if_pos hn]
    exact .down (by decide)
  have hawake : ¬IsPassing (wakingNode 2) := by
    rw [wakingNode, if_neg (by decide), isPassing_ok_iff]
    decide
  have hthree : k = 3 := by
    refine le_antisymm (hleast ⟨by decide, .inr hawake⟩) (not_lt.1 fun hlt => ?_)
    rcases hk with hmost | hsettled
    · rw [show max 1 patient.maxAttempts = 5 from rfl] at hmost
      omega
    · refine hsettled (hdown _ ?_)
      show 0 + (k - 1) < 2
      omega
  subst hthree
  refine ⟨_, hurl, hsent, ?_⟩
  rw [← outcome_iff.1 houtcome]
  cbv

end Client
end JsonRpc

end BatchInbox
