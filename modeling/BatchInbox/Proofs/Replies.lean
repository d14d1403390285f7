import BatchInbox.Proofs.Retries
import BatchInbox.Rpc.Client

/-!
# Replies of JSON-RPC

A node may send any bytes in answer to a call, with any status.  What they come to is put down here
case by case, without the steps in which they are read: a reply is an object or an array that says two
things, a result and an error, and the error counts if there is one.

## What is here

* `Json.HasPair` — two members of a record; `JsonRpc.IsReply` — a body that is a reply.
* `JsonRpc.readResponse?_eq_some_iff` — a body is read as a reply exactly if it is one.
* `JsonRpc.Outcome` — what an answer comes to; `JsonRpc.outcome_iff` says that it comes to nothing else.
* `JsonRpc.IsPassing` — an answer that may be another one the next time.
-/

set_option autoImplicit false
namespace BatchInbox

/-! ## Members -/

namespace Json

/-- At most one field has the name, and it has the value. -/
def FieldIs (fields : List (String × Json)) (name : String) (value? : Option Json) : Prop :=
  fields.filter (fun field => field.1 = name) = value?.toList.map fun value => (name, value)

theorem Member.find?_eq_some_iff {name : String} {presence : Presence} {fields : List (String × Json)}
    {value? : Option Json} :
    Member.find? ⟨[name], presence⟩ fields = some value? ↔
      FieldIs fields name value? ∧ (presence = .required → value? ≠ none) := by
  have hnames : (fields.filter fun field => [name].contains field.1) =
      fields.filter fun field => field.1 = name := by
    congr 1
    funext field
    simp
  have hname : ∀ field ∈ fields.filter (fun field => field.1 = name), field.1 = name := by
    intro field hfield
    simpa using (List.mem_filter.1 hfield).2
  rw [Member.find?, hnames, FieldIs]
  generalize fields.filter (fun field => field.1 = name) = found at hname
  match found with
  | [] =>
    cases presence <;> cases value? <;> simp
  | [(first, value)] =>
    obtain rfl : first = name := hname _ (List.mem_singleton_self _)
    cases value? <;> simp
  | _ :: _ :: _ =>
    cases value? <;> simp

/-- A record with two members, either of which may be missing in an object. -/
inductive HasPair (first second : String) : Json → Option Json → Option Json → Prop
  | object {fields : List (List Char × Json)} {named : List (String × Json)} {a b : Option Json}
    (hnames : fields.mapM readField? = some named) (ha : FieldIs named first a)
    (hb : FieldIs named second b) : HasPair first second (.object fields) a b
  | array (a b : Json) : HasPair first second (.array [a, b]) (some a) (some b)

theorem members?_pair {first second : String} {p q : Presence} (hq : q ≠ .defaulted) {json : Json}
    {a b : Option Json} :
    json.members? [⟨[first], p⟩, ⟨[second], q⟩] = some [a, b] ↔
      HasPair first second json a b ∧ (p = .required → a ≠ none) ∧ (q = .required → b ≠ none) := by
  have hmembers : ∀ named : List (String × Json),
      [⟨[first], p⟩, ⟨[second], q⟩].mapM (Member.find? · named) = some [a, b] ↔
        Member.find? ⟨[first], p⟩ named = some a ∧ Member.find? ⟨[second], q⟩ named = some b := by
    intro named
    simp [List.mapM_cons, Option.bind_eq_some_iff]
  constructor
  · intro h
    match json with
    | object fields =>
      obtain ⟨named, hnames, hfound⟩ := Option.bind_eq_some_iff.1 h
      obtain ⟨hfirst, hsecond⟩ := (hmembers named).1 hfound
      obtain ⟨hfirst, ha⟩ := Member.find?_eq_some_iff.1 hfirst
      obtain ⟨hsecond, hb⟩ := Member.find?_eq_some_iff.1 hsecond
      exact ⟨.object hnames hfirst hsecond, ha, hb⟩
    | array [] => simp [members?, matchItems?, hq] at h
    | array [_] => simp [members?, matchItems?, hq] at h
    | array [x, y] =>
      obtain ⟨rfl, rfl⟩ : some x = a ∧ some y = b := by simpa [members?, matchItems?] using h
      exact ⟨.array x y, by simp, by simp⟩
    | array (_ :: _ :: _ :: _) => simp [members?, matchItems?] at h
    | null | bool _ | number _ | string _ => cases h
  · rintro ⟨hpair, ha, hb⟩
    cases hpair with
    | object hnames hfirst hsecond =>
      refine Option.bind_eq_some_iff.2 ⟨_, hnames, (hmembers _).2 ⟨?_, ?_⟩⟩
      · exact Member.find?_eq_some_iff.2 ⟨hfirst, ha⟩
      · exact Member.find?_eq_some_iff.2 ⟨hsecond, hb⟩
    | array a b => rfl

end Json

/-! ## Replies -/

theorem HttpResponse.isSuccess_iff (r : HttpResponse) :
    r.isSuccess = true ↔ 200 ≤ r.status ∧ r.status < 300 := by
  simp [isSuccess]

namespace JsonRpc
open Json (HasPair)

/-- What a reply says with its result. -/
inductive IsResult : Option Json → Json → Prop
  | missing : IsResult none .null
  | given {json : Json} (h : json.isSound (Json.maxDepth - 1) = true) :
    IsResult (some json) json.settle

/-- What a reply says with its error. -/
inductive IsError : Option Json → Option (Int × String) → Prop
  | missing : IsError none none
  | null : IsError (some .null) none
  | error {json a b : Json} {code : Int} {message : String}
    (hpair : HasPair "code" "message" json (some a) (some b)) (hcode : toInt? a = some code)
    (hmessage : b.toString? = some message) : IsError (some json) (some (code, message))

/-- The body is a reply, with this result and this error. -/
inductive IsReply (body : Bytes) (result : Json) (error? : Option (Int × String)) : Prop
  | intro {json : Json} {a b : Option Json} (hparse : Json.parseBytes? body = some json)
    (hpair : HasPair "result" "error" json a b) (hresult : IsResult a result)
    (herror : IsError b error?)

theorem readError?_eq_some_iff {json : Json} {code : Int} {message : String} :
    readError? json = some (code, message) ↔ ∃ a b, HasPair "code" "message" json (some a) (some b) ∧
      toInt? a = some code ∧ b.toString? = some message := by
  constructor
  · intro h
    obtain ⟨members, hmembers, hread⟩ := Option.bind_eq_some_iff.1 h
    match members with
    | [a, b] =>
      obtain ⟨hpair, ha, hb⟩ := (Json.members?_pair (by decide)).1 hmembers
      obtain ⟨a, rfl⟩ := Option.ne_none_iff_exists'.1 (ha rfl)
      obtain ⟨b, rfl⟩ := Option.ne_none_iff_exists'.1 (hb rfl)
      obtain ⟨hcode, hmessage⟩ : toInt? a = some code ∧ b.toString? = some message := by
        simpa [Json.required?, Option.bind_eq_some_iff] using hread
      exact ⟨a, b, hpair, hcode, hmessage⟩
    | [] | [_] | _ :: _ :: _ :: _ => simp at hread
  · rintro ⟨a, b, h, hcode, hmessage⟩
    refine Option.bind_eq_some_iff.2 ⟨[some a, some b], ?_, ?_⟩
    · exact (Json.members?_pair (by decide)).2 ⟨h, by simp, by simp⟩
    · simp [Json.required?, hcode, hmessage]

theorem defaulted?_readResult?_iff {a : Option Json} {result : Json} :
    Json.defaulted? .null readResult? a = some result ↔ IsResult a result := by
  cases a with
  | none =>
    constructor
    · rintro ⟨⟩
      exact .missing
    · rintro ⟨⟩
      rfl
  | some json =>
    simp only [Json.defaulted?, readResult?]
    constructor
    · intro h
      split at h
      · cases h
        exact .given ‹_›
      · cases h
    · intro h
      cases h with
      | given h => rw [if_pos h]

theorem optional?_readError?_iff {b : Option Json} {error? : Option (Int × String)} :
    Json.optional? readError? b = some error? ↔ IsError b error? := by
  constructor
  · intro h
    rw [Json.optional?.eq_def] at h
    split at h
    · cases h
      exact .missing
    · cases h
      exact .null
    · obtain ⟨⟨code, message⟩, herror, rfl⟩ := Option.map_eq_some_iff.1 h
      obtain ⟨a, b, hpair, hcode, hmessage⟩ := readError?_eq_some_iff.1 herror
      exact .error hpair hcode hmessage
  · intro h
    cases h with
    | missing => rfl
    | null => rfl
    | error hpair hcode hmessage =>
      have herror := readError?_eq_some_iff.2 ⟨_, _, hpair, hcode, hmessage⟩
      cases hpair with
      | object => exact congrArg (Option.map some) herror
      | array => exact congrArg (Option.map some) herror

/-- **What a reply says.** -/
theorem readResponse?_eq_some_iff {body : Bytes} {result : Json} {error? : Option (Int × String)} :
    readResponse? body = some (result, error?) ↔ IsReply body result error? := by
  constructor
  · intro h
    obtain ⟨json, hparse, h⟩ := Option.bind_eq_some_iff.1 h
    obtain ⟨members, hmembers, hread⟩ := Option.bind_eq_some_iff.1 h
    match members with
    | [a, b] =>
      obtain ⟨hpair, -, -⟩ := (Json.members?_pair (by decide)).1 hmembers
      obtain ⟨hresult, herror⟩ : Json.defaulted? .null readResult? a = some result ∧
          Json.optional? readError? b = some error? := by
        simpa [Option.bind_eq_some_iff] using hread
      exact ⟨hparse, hpair, defaulted?_readResult?_iff.1 hresult, optional?_readError?_iff.1 herror⟩
    | [] | [_] | _ :: _ :: _ :: _ => simp at hread
  · intro h
    cases h with
    | @intro json a b hparse hpair hresult herror =>
      refine Option.bind_eq_some_iff.2 ⟨json, hparse, Option.bind_eq_some_iff.2 ⟨[a, b], ?_, ?_⟩⟩
      · refine (Json.members?_pair (by decide)).2 ⟨hpair, ?_, ?_⟩
        · intro h
          cases h
        · intro h
          cases h
      · simp [defaulted?_readResult?_iff.2 hresult, optional?_readError?_iff.2 herror]

theorem readResponse?_eq_none_iff {body : Bytes} :
    readResponse? body = none ↔ ∀ result error?, ¬IsReply body result error? := by
  rw [Option.eq_none_iff_forall_ne_some, Prod.forall]
  exact forall₂_congr fun result error? => not_congr readResponse?_eq_some_iff

/-! ## What an answer comes to -/

/-- A call with what is asked for, and what its result should be. -/
structure Call where
  Result : Type
  method : String
  params : Json
  read : Json → Option Result

/-- What an answer to a call comes to. -/
inductive Outcome (call : Call) :
    Except TransportError HttpResponse → Except RpcError call.Result → Prop
  | lost (e : TransportError) : Outcome call (.error e) (.error (.transport e))
  | status {r : HttpResponse} (h : r.status < 200 ∨ 300 ≤ r.status) :
    Outcome call (.ok r) (.error (.status r.status (String.ofList r.body.lossyText)))
  /-- An error counts, whatever the result. -/
  | rpc {r : HttpResponse} {result : Json} {code : Int} {message : String}
    (h : 200 ≤ r.status ∧ r.status < 300) (hreply : IsReply r.body result (some (code, message))) :
    Outcome call (.ok r) (.error (.rpc code message))
  | decoded {r : HttpResponse} {result : Json} {a : call.Result}
    (h : 200 ≤ r.status ∧ r.status < 300) (hreply : IsReply r.body result none)
    (hread : call.read result = some a) : Outcome call (.ok r) (.ok a)
  | unfit {r : HttpResponse} {result : Json} (h : 200 ≤ r.status ∧ r.status < 300)
    (hreply : IsReply r.body result none) (hread : call.read result = none) :
    Outcome call (.ok r) (.error (.malformed (.unreadable call.method)))
  | noReply {r : HttpResponse} (h : 200 ≤ r.status ∧ r.status < 300)
    (hreply : ∀ result error?, ¬IsReply r.body result error?) :
    Outcome call (.ok r) (.error (.malformed (.unreadable call.method)))

/-- What the client makes of an answer. -/
def Call.outcome (call : Call) (answer : Except TransportError HttpResponse) :
    Except RpcError call.Result :=
  match answer with
  | .error e => .error (.transport e)
  | .ok r => if r.isSuccess then readResponse call.method call.read r.body else .error r.error

theorem Call.outcome_of_success (call : Call) {r : HttpResponse}
    (h : 200 ≤ r.status ∧ r.status < 300) :
    call.outcome (.ok r) = readResponse call.method call.read r.body :=
  if_pos (r.isSuccess_iff.2 h)

theorem Call.outcome_of_failure (call : Call) {r : HttpResponse}
    (h : r.status < 200 ∨ 300 ≤ r.status) : call.outcome (.ok r) = .error r.error :=
  if_neg (by rw [r.isSuccess_iff]; omega)

theorem outcome_outcome (call : Call) (answer : Except TransportError HttpResponse) :
    Outcome call answer (call.outcome answer) := by
  cases answer with
  | error e => exact .lost e
  | ok r =>
    by_cases h : 200 ≤ r.status ∧ r.status < 300
    · rw [call.outcome_of_success h, readResponse]
      split
      · exact .noReply h (readResponse?_eq_none_iff.1 ‹_›)
      · exact .rpc h (readResponse?_eq_some_iff.1 ‹_›)
      · split
        · exact .unfit h (readResponse?_eq_some_iff.1 ‹_›) ‹_›
        · exact .decoded h (readResponse?_eq_some_iff.1 ‹_›) ‹_›
    · have hfailure : r.status < 200 ∨ 300 ≤ r.status := by omega
      rw [call.outcome_of_failure hfailure]
      exact .status hfailure

/-- **An answer comes to one thing only**, which is what the client makes of it. -/
theorem outcome_iff {call : Call} {answer : Except TransportError HttpResponse}
    {r : Except RpcError call.Result} : Outcome call answer r ↔ call.outcome answer = r := by
  constructor
  · intro h
    cases h with
    | lost e => rfl
    | status h => exact call.outcome_of_failure h
    | rpc h hreply =>
      rw [call.outcome_of_success h, readResponse, readResponse?_eq_some_iff.2 hreply]
    | decoded h hreply hread =>
      simp only [call.outcome_of_success h, readResponse, readResponse?_eq_some_iff.2 hreply, hread]
    | unfit h hreply hread =>
      simp only [call.outcome_of_success h, readResponse, readResponse?_eq_some_iff.2 hreply, hread]
    | noReply h hreply =>
      rw [call.outcome_of_success h, readResponse, readResponse?_eq_none_iff.2 hreply]
  · rintro rfl
    exact outcome_outcome call answer

/-! ## What may pass -/

/-- There may be another answer the next time: none has come, or the node is overloaded or down. -/
inductive IsPassing : Except TransportError HttpResponse → Prop
  | lost (url : String) (causes : List String) : IsPassing (.error (.noAnswer url causes))
  | overloaded {r : HttpResponse} (h : r.status = 429) : IsPassing (.ok r)
  | down {r : HttpResponse} (h : 500 ≤ r.status) : IsPassing (.ok r)

theorem isPassing_ok_iff {r : HttpResponse} :
    IsPassing (.ok r) ↔ r.status = 429 ∨ 500 ≤ r.status := by
  constructor
  · intro h
    cases h with
    | overloaded h => exact .inl h
    | down h => exact .inr h
  · rintro (h | h)
    · exact .overloaded h
    · exact .down h

/-- What may pass is what the client makes another attempt for. -/
theorem isFleeting_outcome_iff (call : Call) (answer : Except TransportError HttpResponse) :
    IsFleeting (call.outcome answer) ↔ IsPassing answer := by
  constructor
  · rintro ⟨e, hfailed, hretry⟩
    cases outcome_iff.2 hfailed with
    | lost e =>
      cases e with
      | badUrl cause => cases hretry
      | noAnswer url causes => exact .lost url causes
    | status h => exact isPassing_ok_iff.2 (by simpa [RpcError.isRetryable] using hretry)
    | rpc h hreply => cases hretry
    | unfit h hreply hread => cases hretry
    | noReply h hreply => cases hretry
  · intro h
    match answer, h with
    | _, .lost url causes => exact ⟨_, rfl, rfl⟩
    | .ok r, h =>
      have hstatus := isPassing_ok_iff.1 h
      refine ⟨_, outcome_iff.1 (.status (by omega)), ?_⟩
      simpa [RpcError.isRetryable] using hstatus

end JsonRpc

end BatchInbox
