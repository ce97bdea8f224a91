import ChangeRelay.Proofs.Since
import ChangeRelay.Proofs.Sink.Payload

/-!
# Which requests carry the headers of a webhook

The headers of a webhook are set one after another before it is used.  A value takes the place of
the one before only if the name is spelled the same, while a request that is sent does not tell
spellings apart.  Batches are posted with all headers of the webhook, and health is looked after
with none of them.  In both cases the client adds headers of its own.

So a posted batch carries the last value of each header, and an earlier one exactly if it stays
under another spelling or is a value that the client adds.  What looks after health carries just
those values that the client happens to add.
-/

namespace ChangeRelay

open Network

namespace Network.Http

/-- The values that headers give to a name, whatever its spelling. -/
def valuesIn (name : String) (headers : List (String × String)) : List String :=
  (headers.filter fun header => sentName header.1 = sentName name).map Prod.snd

theorem mem_valuesIn_iff {name value : String} {headers : List (String × String)} :
    value ∈ valuesIn name headers ↔
      ∃ header ∈ headers, sentName header.1 = sentName name ∧ header.2 = value := by
  simp only [valuesIn, List.mem_map, List.mem_filter, decide_eq_true_eq, and_assoc]

@[simp]
theorem mem_valuesIn_append_iff {name value : String} {first second : List (String × String)} :
    value ∈ valuesIn name (first ++ second) ↔
      value ∈ valuesIn name first ∨ value ∈ valuesIn name second := by
  simp [valuesIn]

/-- All headers with which a request is sent. -/
def Request.allHeaders (request : Request) : List (String × String) :=
  request.ownHeaders ++ request.headers

end Network.Http

namespace Sink.Webhook

/-! ## Settings and calls -/

/-- What is set about a webhook before it is used. -/
inductive Setting where
  | header (name value : String)
  | healthUrl (url : String)
deriving DecidableEq, Repr

/-- A webhook with one more setting. -/
def apply (webhook : Webhook) : Setting → Webhook
  | .header name value => webhook.withHeader name value
  | .healthUrl url => webhook.withHealthUrl url

/-- The webhook at an address with some settings, the oldest first. -/
def configured (address : String) (settings : List Setting) : Webhook :=
  settings.foldl apply (ofUrl address)

/-- The headers that are set, the oldest first. -/
def headersSet (settings : List Setting) : List (String × String) :=
  settings.filterMap fun
    | .header name value => some (name, value)
    | .healthUrl _ => none

/-- The last of some headers with such a name has this value. -/
def LastUnder (covers : String → Prop) (headers : List (String × String)) (value : String) :
    Prop :=
  Since (fun _ header => covers header.1 ∧ header.2 = value) (fun _ header => covers header.1)
    headers

/-- The value that some settings give to a header last, whatever the spelling of its name. -/
def LastValue (settings : List Setting) (name value : String) : Prop :=
  LastUnder (fun spelling => Http.sentName spelling = Http.sentName name) (headersSet settings)
    value

/-- A value was set for a header, and it is not the last one. -/
def Superseded (settings : List Setting) (name value : String) : Prop :=
  value ∈ Http.valuesIn name (headersSet settings) ∧ ¬ LastValue settings name value

/-- A value is the last one under some spelling of the name of a header. -/
def StaysSpelled (settings : List Setting) (name value : String) : Prop :=
  ∃ spelling, Http.sentName spelling = Http.sentName name ∧
    LastUnder (· = spelling) (headersSet settings) value

/-- Headers have the last value of each header that is set, and none that was set before. -/
def CarriesSettings (settings : List Setting) (headers : List (String × String)) : Prop :=
  ∀ name value, (LastValue settings name value → value ∈ Http.valuesIn name headers) ∧
    (Superseded settings name value → value ∉ Http.valuesIn name headers)

/-- No header is set under two spellings of its name. -/
def SpelledAlike (settings : List Setting) : Prop :=
  ∀ first ∈ headersSet settings, ∀ second ∈ headersSet settings,
    Http.sentName first.1 = Http.sentName second.1 → first.1 = second.1

instance (settings : List Setting) : Decidable (SpelledAlike settings) :=
  inferInstanceAs (Decidable (∀ first ∈ headersSet settings, ∀ second ∈ headersSet settings,
    Http.sentName first.1 = Http.sentName second.1 → first.1 = second.1))

/-- What a webhook is used for, over the network as it is at this moment. -/
inductive Call where
  | emit (network : Http.Transport) (batch : List Change)
  | health (network : Http.Transport)

/-- The client of a call and the network behind it. -/
def Call.network : Call → Http.Transport
  | .emit network _ | .health network => network

/-- The requests of a call. -/
def Call.requests (webhook : Webhook) : Call → List Http.Request
  | .emit network batch => (webhook.emit network batch).requests
  | .health network => (webhook.checkHealth network).requests

/-- What a call has to ask for, and at which address.  There is nothing to ask for an empty
batch. -/
def Call.errand? (webhook : Webhook) : Call → Option (Http.Method × String)
  | .emit _ [] => none
  | .emit _ (_ :: _) => some (.post, webhook.url)
  | .health _ => some (.head, webhook.healthUrl.getD webhook.url)

/-- The requests of some calls, one after another. -/
def requestsOf (webhook : Webhook) (calls : List Call) : List Http.Request :=
  calls.flatMap (Call.requests webhook)

/-! ## Last values -/

theorem lastUnder_concat_iff (covers : String → Prop) (headers : List (String × String))
    (header : String × String) (value : String) :
    LastUnder covers (headers ++ [header]) value ↔
      (covers header.1 ∧ header.2 = value) ∨
        (¬ covers header.1 ∧ LastUnder covers headers value) :=
  since_concat_iff _ _ headers header

theorem getLast?_covered_iff (covers : String → Prop) [DecidablePred covers]
    (headers : List (String × String)) (value : String) :
    (headers.filter (covers ·.1)).getLast?.map Prod.snd = some value ↔
      LastUnder covers headers value := by
  induction headers using List.reverseRecOn with
  | nil => exact iff_of_false nofun (not_since_nil _ _)
  | append_singleton headers last ih =>
      rw [lastUnder_concat_iff, ← ih, List.filter_append]
      by_cases coversLast : covers last.1 <;> simp [coversLast]

instance (settings : List Setting) (name value : String) :
    Decidable (LastValue settings name value) :=
  decidable_of_iff _ (getLast?_covered_iff ..)

instance (settings : List Setting) (name value : String) :
    Decidable (Superseded settings name value) :=
  inferInstanceAs (Decidable (_ ∧ ¬ LastValue settings name value))

/-- The last value of a header is the last one under its own spelling. -/
theorem LastUnder.exists_spelling {covers : String → Prop} {headers : List (String × String)}
    {value : String} (last : LastUnder covers headers value) :
    ∃ spelling, covers spelling ∧ (spelling, value) ∈ headers ∧
      LastUnder (· = spelling) headers value := by
  rcases last with ⟨before, ⟨spelling, value⟩, after, rfl, ⟨covered, rfl⟩, unchanged⟩
  refine ⟨spelling, covered, by simp, before, (spelling, value), after, rfl, ⟨rfl, rfl⟩, ?_⟩
  -- A later header under this spelling would be a later one that is covered.
  rintro middle ⟨_, later⟩ rest split rfl
  exact unchanged middle _ rest split covered

theorem LastValue.staysSpelled {settings : List Setting} {name value : String}
    (last : LastValue settings name value) : StaysSpelled settings name value := by
  rcases last.exists_spelling with ⟨spelling, alike, -, lastSpelled⟩
  exact ⟨spelling, alike, lastSpelled⟩

/-- Where each name has one spelling, what is last under it is the last value. -/
theorem SpelledAlike.lastValue {settings : List Setting} (spelledAlike : SpelledAlike settings)
    {name value : String} (stays : StaysSpelled settings name value) :
    LastValue settings name value := by
  rcases stays with ⟨spelling, alike, before, header, after, split, ⟨rfl, isValue⟩, unchanged⟩
  refine ⟨before, header, after, split, ⟨alike, isValue⟩, ?_⟩
  intro middle other rest later otherAlike
  apply unchanged middle other rest later
  exact spelledAlike other (by simp [split, later]) header (by simp [split])
    (otherAlike.trans alike.symm)

/-! ## Configured headers -/

section Configured

variable (address : String) (settings : List Setting)

theorem configured_concat (setting : Setting) :
    configured address (settings ++ [setting]) = (configured address settings).apply setting :=
  List.foldl_concat ..

theorem headersSet_concat (setting : Setting) :
    headersSet (settings ++ [setting]) = headersSet settings ++ headersSet [setting] :=
  List.filterMap_append

/-- A webhook has each header under each of its spellings with the last value for that spelling. -/
theorem mem_headers_configured_iff (name value : String) :
    (name, value) ∈ (configured address settings).headers ↔
      LastUnder (· = name) (headersSet settings) value := by
  induction settings using List.reverseRecOn with
  | nil => exact iff_of_false List.not_mem_nil (not_since_nil _ _)
  | append_singleton settings setting ih =>
      rw [configured_concat, headersSet_concat]
      cases setting with
      | healthUrl url => simpa [apply, withHealthUrl, headersSet] using ih
      | header newName newValue =>
          have grown : headersSet [.header newName newValue] = [(newName, newValue)] := rfl
          rw [grown, lastUnder_concat_iff, ← ih]
          simp only [apply, withHeader, List.mem_append, List.mem_filter, List.mem_singleton,
            Prod.mk.injEq, decide_eq_true_eq]
          constructor
          · rintro (⟨held, other⟩ | ⟨rfl, rfl⟩)
            · exact .inr ⟨fun same => other same.symm, held⟩
            · exact .inl ⟨rfl, rfl⟩
          · rintro (⟨rfl, rfl⟩ | ⟨other, held⟩)
            · exact .inr ⟨rfl, rfl⟩
            · exact .inl ⟨held, fun same => other same.symm⟩

/-- A webhook has every header once under each spelling. -/
theorem nodup_headers_configured :
    ((configured address settings).headers.map Prod.fst).Nodup := by
  induction settings using List.reverseRecOn with
  | nil => exact List.nodup_nil
  | append_singleton settings setting ih =>
      rw [configured_concat]
      cases setting with
      | healthUrl url => exact ih
      | header name value =>
          simp only [apply, withHeader, List.map_append, List.map_cons, List.map_nil,
            List.nodup_append]
          exact ⟨ih.sublist (List.filter_sublist.map _), by simp, by simp⟩

theorem mem_headersSet_of_mem {header : String × String}
    (member : header ∈ (configured address settings).headers) :
    header ∈ headersSet settings := by
  rcases ((mem_headers_configured_iff address settings _ _).mp member).exists_spelling with
    ⟨_, rfl, set, -⟩
  exact set

/-- For each header a webhook has what stays under the spellings of its name. -/
theorem mem_valuesIn_configured_iff (name value : String) :
    value ∈ Http.valuesIn name (configured address settings).headers ↔
      StaysSpelled settings name value := by
  simp only [Http.mem_valuesIn_iff, StaysSpelled, ← mem_headers_configured_iff address]
  constructor
  · rintro ⟨⟨spelling, value⟩, held, alike, rfl⟩
    exact ⟨spelling, alike, held⟩
  · rintro ⟨spelling, alike, held⟩
    exact ⟨(spelling, value), held, alike, rfl⟩

end Configured

/-! ## Requests -/

/-- The headers with which a webhook posts: all that it has, behind the type of the body. -/
def postedHeaders (webhook : Webhook) : List (String × String) :=
  ("content-type", "application/json") ::
    webhook.headers.map fun header => (Http.sentName header.1, header.2)

/-- What a request is given of a webhook: a batch is posted with all headers, and health is
looked after without any. -/
inductive Given (webhook : Webhook) (request : Http.Request) : Prop
  | posted (isPost : request.method = .post) (all : request.headers = webhook.postedHeaders)
  | checked (isHead : request.method = .head) (none : request.headers = [])

/-- Health is looked after with one request if its address can be asked, and otherwise with
none. -/
theorem requests_checkHealth (network : Http.Transport) (webhook : Webhook) :
    (∃ written, Http.Asks (webhook.healthUrl.getD webhook.url) written ∧
      (webhook.checkHealth network).requests = [network.prepare .head written [] none]) ∨
    ((¬ ∃ written, Http.Asks (webhook.healthUrl.getD webhook.url) written) ∧
      (webhook.checkHealth network).requests = []) := by
  cases built : Http.build network .head (webhook.healthUrl.getD webhook.url) [] none with
  | error failure =>
      refine .inr ⟨?_, by simp only [checkHealth, built]⟩
      rintro ⟨written, asks⟩
      cases built.symm.trans (Http.build_eq_ok_iff.mpr ⟨written, [], asks, rfl⟩)
  | ok request =>
      rcases Http.build_eq_ok_iff.mp built with ⟨written, carried, usable, rfl⟩
      rcases Http.usable_iff.mp usable with ⟨asks, read⟩
      cases read
      refine .inl ⟨written, asks, ?_⟩
      simp only [checkHealth, built]
      split
      · rfl
      · split <;> rfl

section Requests

variable {webhook : Webhook}

theorem given_of_mem {call : Call} {request : Http.Request}
    (made : request ∈ call.requests webhook) : Given webhook request := by
  cases call with
  | emit network batch =>
      rw [Call.requests] at made
      rcases requests_emit network webhook batch with
        ⟨-, written, carried, usable, sent⟩ | ⟨-, sent⟩
      · rw [sent] at made
        obtain rfl := List.mem_singleton.mp made
        rcases Http.mapM_readHeader?_eq_some_iff.mp usable.headers with ⟨-, rfl⟩
        exact .posted rfl rfl
      · rw [sent] at made
        cases made
  | health network =>
      rw [Call.requests] at made
      rcases requests_checkHealth network webhook with ⟨written, -, sent⟩ | ⟨-, sent⟩
      · rw [sent] at made
        obtain rfl := List.mem_singleton.mp made
        exact .checked rfl rfl
      · rw [sent] at made
        cases made

/-- A call with an errand makes a request if its address can be asked. -/
theorem exists_request_of_errand (valid : ∀ header ∈ webhook.headers, Http.IsHeader header)
    {call : Call} {method : Http.Method} {address : String} {written : Url}
    (errand : call.errand? webhook = some (method, address)) (asks : Http.Asks address written) :
    ∃ given body, call.requests webhook = [call.network.prepare method written given body] := by
  cases call with
  | emit network batch =>
      cases batch with
      | nil => cases errand
      | cons change batch =>
          cases errand
          rcases requests_emit network webhook (change :: batch) with
            ⟨-, other, carried, usable, sent⟩ | ⟨cannot, -⟩
          · cases asks.unique (Http.usable_iff.mp usable).1
            exact ⟨_, _, sent⟩
          · have usable := Http.usable_iff.mpr
              ⟨asks, Http.mapM_readHeader?_eq_some_iff.mpr ⟨valid, rfl⟩⟩
            exact absurd ⟨List.cons_ne_nil change batch, written, _, usable⟩ cannot
  | health network =>
      cases errand
      rcases requests_checkHealth network webhook with ⟨other, alsoAsks, sent⟩ | ⟨cannot, -⟩
      · cases asks.unique alsoAsks
        exact ⟨[], none, sent⟩
      · exact absurd ⟨written, asks⟩ cannot

end Requests

/-! ## Values that are carried -/

/-- Entries with different keys of which each has the same key are one entry. -/
theorem eq_singleton_of_same_key {entries : List (String × String)} {key value : String}
    (nodup : (entries.map Prod.fst).Nodup) (member : (key, value) ∈ entries)
    (same : ∀ entry ∈ entries, entry.1 = key) : entries = [(key, value)] := by
  rcases entries with _ | ⟨first, _ | ⟨second, others⟩⟩
  · cases member
  · rw [List.mem_singleton.mp member]
  · have sameKey : first.1 = second.1 := (same first (by simp)).trans (same second (by simp)).symm
    simp [sameKey] at nodup

section Posted

variable {address : String} {settings : List Setting} {request : Http.Request}
  (all : request.headers = (configured address settings).postedHeaders)
  (ownNames : ∀ header ∈ headersSet settings, Http.sentName header.1 ≠ "content-type")

include all ownNames

/-- A posted batch is given for a header that is set what the webhook has for it. -/
theorem valuesIn_posted {name : String} {header : String × String}
    (set : header ∈ headersSet settings) (alike : Http.sentName header.1 = Http.sentName name) :
    Http.valuesIn name request.headers =
      Http.valuesIn name (configured address settings).headers := by
  have ownName : Http.sentName "content-type" ≠ Http.sentName name := by
    rw [← alike]
    exact (ownNames header set).symm
  rw [Http.valuesIn, all, postedHeaders, List.filter_cons_of_neg (by simpa using ownName),
    List.filter_map, List.map_map]
  simp only [Function.comp_def, Http.sentName_sentName]
  rfl

/-- A posted batch is given the last value of each header. -/
theorem mem_valuesIn_of_lastValue {name value : String} (last : LastValue settings name value) :
    value ∈ Http.valuesIn name request.headers := by
  rcases last.exists_spelling with ⟨_, alike, set, -⟩
  rw [valuesIn_posted all ownNames set alike, mem_valuesIn_configured_iff]
  exact last.staysSpelled

/-- Where each name has one spelling, a posted batch is given nothing else for a header. -/
theorem valuesIn_eq_of_lastValue (spelledAlike : SpelledAlike settings) {name value : String}
    (last : LastValue settings name value) : Http.valuesIn name request.headers = [value] := by
  rcases last.exists_spelling with ⟨spelling, alike, set, lastSpelled⟩
  have held := (mem_headers_configured_iff address settings spelling value).mpr lastSpelled
  have nodup := nodup_headers_configured address settings
  rw [valuesIn_posted all ownNames set alike, Http.valuesIn,
    eq_singleton_of_same_key (nodup.sublist (List.filter_sublist.map _))]
  · rfl
  · exact List.mem_filter.mpr ⟨held, decide_eq_true alike⟩
  · intro header member
    rcases List.mem_filter.mp member with ⟨other, otherAlike⟩
    exact spelledAlike header (mem_headersSet_of_mem address settings other) _ set
      ((of_decide_eq_true otherAlike).trans alike.symm)

/-- A posted batch carries what was set exactly if no earlier value stays under another spelling
and none is a value that the client adds. -/
theorem carriesSettings_posted_iff :
    CarriesSettings settings request.allHeaders ↔
      ∀ name value, Superseded settings name value →
        ¬ StaysSpelled settings name value ∧ value ∉ Http.valuesIn name request.ownHeaders := by
  constructor
  · intro carries name value superseded
    have absent := (carries name value).2 superseded
    rw [Http.Request.allHeaders, Http.mem_valuesIn_append_iff, not_or] at absent
    rcases Http.mem_valuesIn_iff.mp superseded.1 with ⟨header, set, alike, -⟩
    rw [valuesIn_posted all ownNames set alike, mem_valuesIn_configured_iff] at absent
    exact absent.symm
  · intro replaced name value
    rw [Http.Request.allHeaders, Http.mem_valuesIn_append_iff]
    constructor
    · intro last
      exact .inr (mem_valuesIn_of_lastValue all ownNames last)
    · intro superseded
      rcases Http.mem_valuesIn_iff.mp superseded.1 with ⟨header, set, alike, -⟩
      rw [valuesIn_posted all ownNames set alike, mem_valuesIn_configured_iff]
      rcases replaced name value superseded with ⟨gone, notAdded⟩
      exact not_or.mpr ⟨notAdded, gone⟩

end Posted

/-- A request that is given no header carries what the client adds. -/
theorem carriesSettings_checked_iff {settings : List Setting} {request : Http.Request}
    (none : request.headers = []) :
    CarriesSettings settings request.allHeaders ↔ CarriesSettings settings request.ownHeaders := by
  rw [Http.Request.allHeaders, none, List.append_nil]

/-! ## Settings and requests -/

/-- A request carries the last value of each header that is set and none that was set before, just
if it posts a batch and no earlier value stays under another spelling or is added by the client,
or if it looks after health and the client happens to add what was set.  What is posted is given
the last values in any case, and nothing else for a header if no name is spelled in two ways.
What looks after health is given nothing.  A call with something
to ask for makes its request, with what its client adds, if the address can be asked. -/
theorem requests_carry_settings_iff (address : String) (settings : List Setting)
    (calls : List Call)
    (valid : ∀ header ∈ headersSet settings,
      Http.IsHeader header ∧ Http.sentName header.1 ≠ "content-type") :
    (∀ request ∈ requestsOf (configured address settings) calls,
      (CarriesSettings settings request.allHeaders ↔
        (request.method = .post ∧ ∀ name value, Superseded settings name value →
          ¬ StaysSpelled settings name value ∧
            value ∉ Http.valuesIn name request.ownHeaders) ∨
        (request.method = .head ∧ CarriesSettings settings request.ownHeaders)) ∧
      (request.method = .post → ∀ name value, LastValue settings name value →
        value ∈ Http.valuesIn name request.headers ∧
          (SpelledAlike settings → Http.valuesIn name request.headers = [value])) ∧
      (request.method = .head → request.headers = [])) ∧
    ∀ (call : Call) method place written,
      call.errand? (configured address settings) = some (method, place) →
        Http.Asks place written →
          ∃ given body, call.requests (configured address settings) =
            [call.network.prepare method written given body] := by
  have ownNames : ∀ header ∈ headersSet settings, Http.sentName header.1 ≠ "content-type" :=
    fun header set => (valid header set).2
  constructor
  · intro request made
    rcases List.mem_flatMap.mp made with ⟨call, -, madeByCall⟩
    rcases given_of_mem madeByCall with ⟨isPost, all⟩ | ⟨isHead, none⟩
    · refine ⟨?_, ?_, ?_⟩
      · rw [carriesSettings_posted_iff all ownNames]
        simp [isPost]
      · intro _ name value last
        exact ⟨mem_valuesIn_of_lastValue all ownNames last,
          fun spelledAlike => valuesIn_eq_of_lastValue all ownNames spelledAlike last⟩
      · intro isHead
        cases isPost.symm.trans isHead
    · refine ⟨?_, ?_, fun _ => none⟩
      · rw [carriesSettings_checked_iff none]
        simp [isHead]
      · intro isPost
        cases isHead.symm.trans isPost
  · intro call method place written errand asks
    apply exists_request_of_errand _ errand asks
    intro header held
    exact (valid header (mem_headersSet_of_mem address settings held)).1

/-! ## A webhook with a token -/

/-- A token, and a team that is set twice. -/
def teamSettings : List Setting :=
  [.header "X-Team" "infra", .header "Authorization" "Bearer token123",
    .header "X-Team" "platform"]

/-- A plain client adds nothing to a header of another name than its own. -/
theorem valuesIn_plainClient {name : String}
    (other : Http.sentName name ∉ ["accept", "host", "content-length"]) (method : Http.Method)
    (written : Url) (given : List (String × String)) (body : Option Json) (value : String) :
    value ∉ Http.valuesIn name (plainClient.prepare method written given body).ownHeaders := by
  rw [Http.mem_valuesIn_iff]
  rintro ⟨header, added, alike, -⟩
  have own : header.1 ∈ ["accept", "host", "content-length"] := by
    simp only [Http.Transport.prepare, plainClient, List.mem_append, List.mem_singleton,
      List.mem_map] at added
    rcases added with (accepts | rfl) | ⟨_, -, rfl⟩
    · split at accepts
      · cases accepts
      · simp [List.mem_singleton.mp accepts]
    · simp
    · simp
  have asSent : ∀ own ∈ ["accept", "host", "content-length"], Http.sentName own = own := by
    decide +kernel
  rw [← alike, asSent _ own] at other
  exact other own

theorem superseded_teamSettings {name value : String}
    (superseded : Superseded teamSettings name value) :
    Http.sentName name ∉ ["accept", "host", "content-length"] := by
  rcases Http.mem_valuesIn_iff.mp superseded.1 with ⟨header, set, alike, -⟩
  have others : ∀ header ∈ headersSet teamSettings,
      Http.sentName header.1 ∉ ["accept", "host", "content-length"] := by decide +kernel
  rw [← alike]
  exact others header set

/-- A batch is posted with the token and the last team.  Health is looked after with neither, and
only with what the client adds. -/
theorem requests_carry_settings_iff_teamSettings :
    (∀ header ∈ headersSet teamSettings,
      Http.IsHeader header ∧ Http.sentName header.1 ≠ "content-type") ∧
    Superseded teamSettings "X-TEAM" "infra" ∧
    ∃ posted checked, requestsOf (configured localAddress teamSettings)
        [.emit plainClient oddBatch, .health plainClient] = [posted, checked] ∧
      CarriesSettings teamSettings posted.allHeaders ∧
      Http.valuesIn "x-team" posted.headers = ["platform"] ∧
      Http.valuesIn "authorization" posted.headers = ["Bearer token123"] ∧
      "*/*" ∈ Http.valuesIn "accept" checked.allHeaders ∧
      ¬ CarriesSettings teamSettings checked.allHeaders := by
  have valid : ∀ header ∈ headersSet teamSettings,
      Http.IsHeader header ∧ Http.sentName header.1 ≠ "content-type" := by
    decide +kernel
  refine ⟨valid, by decide +kernel, ?_⟩
  rcases exists_asks_localAddress with ⟨written, asks⟩
  obtain ⟨carried, makes⟩ := requests_carry_settings_iff localAddress teamSettings
    [.emit plainClient oddBatch, .health plainClient] valid
  rcases makes (.emit plainClient oddBatch) .post localAddress written rfl asks with
    ⟨posted, body, sent⟩
  rcases makes (.health plainClient) .head localAddress written rfl asks with
    ⟨checked, noBody, alsoSent⟩
  have all : requestsOf (configured localAddress teamSettings)
      [.emit plainClient oddBatch, .health plainClient] =
        [plainClient.prepare .post written posted body,
          plainClient.prepare .head written checked noBody] := by
    rw [requestsOf, List.flatMap_cons, List.flatMap_cons, sent, alsoSent]
    rfl
  rw [all] at carried
  obtain ⟨postedIff, lastGiven, -⟩ := carried _ List.mem_cons_self
  obtain ⟨checkedIff, -, unset⟩ := carried _ (List.mem_cons_of_mem _ List.mem_cons_self)
  have spelledAlike : SpelledAlike teamSettings := by decide +kernel
  refine ⟨_, _, all, postedIff.mpr (.inl ⟨rfl, ?_⟩), ?_, ?_, ?_, ?_⟩
  · intro name value superseded
    constructor
    · intro stays
      exact superseded.2 (spelledAlike.lastValue stays)
    · exact valuesIn_plainClient (superseded_teamSettings superseded) _ _ _ _ _
  · exact (lastGiven rfl "x-team" "platform" (by decide +kernel)).2 spelledAlike
  · exact (lastGiven rfl "authorization" "Bearer token123" (by decide +kernel)).2 spelledAlike
  · cases unset rfl
    rw [Http.mem_valuesIn_iff]
    exact ⟨("accept", "*/*"), List.mem_cons_self, rfl, rfl⟩
  · intro carries
    rcases checkedIff.mp carries with ⟨isPost, -⟩ | ⟨-, added⟩
    · cases isPost
    · have token := (added "authorization" "Bearer token123").1 (by decide +kernel)
      exact valuesIn_plainClient (by decide +kernel) _ _ _ _ _ token

/-- Health is looked after without the token that is set for all requests. -/
theorem token_missing_from_health_check :
    let settings := [Setting.header "Authorization" "Bearer token123"]
    (∀ header ∈ headersSet settings,
      Http.IsHeader header ∧ Http.sentName header.1 ≠ "content-type") ∧
    LastValue settings "Authorization" "Bearer token123" ∧
    ∃ request, requestsOf (configured localAddress settings) [.health plainClient] = [request] ∧
      "Bearer token123" ∉ Http.valuesIn "Authorization" request.allHeaders ∧
      ¬ CarriesSettings settings request.allHeaders := by
  intro settings
  have last : LastValue settings "Authorization" "Bearer token123" := by decide +kernel
  rcases requests_checkHealth plainClient (configured localAddress settings) with
    ⟨written, -, sent⟩ | ⟨cannot, -⟩
  · have absent : "Bearer token123" ∉ Http.valuesIn "Authorization"
        (plainClient.prepare .head written [] none).allHeaders := by
      rw [Http.Request.allHeaders, Http.mem_valuesIn_append_iff, not_or]
      exact ⟨valuesIn_plainClient (by decide +kernel) _ _ _ _ _, List.not_mem_nil⟩
    refine ⟨by decide +kernel, last, plainClient.prepare .head written [] none, ?_, absent, ?_⟩
    · rwa [requestsOf, List.flatMap_singleton, Call.requests]
    · intro carries
      exact absent ((carries _ _).1 last)
  · exact absurd exists_asks_localAddress cannot

end Sink.Webhook

end ChangeRelay
