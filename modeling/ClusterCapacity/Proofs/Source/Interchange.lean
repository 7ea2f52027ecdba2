import ClusterCapacity.Proofs.Json.Bytes
import ClusterCapacity.Proofs.Json.Workers
import ClusterCapacity.Proofs.Run.SnapshotFile

/-!
# A master in the place of a snapshot file

A master that answers with the workers of a snapshot is as good a source as a file that holds the
snapshot (`sources_interchangeable`): what is fetched, the report and all that is written are the
same.  Any answer with the status of a failure is told as such before its body is looked at, and a
body that is not a JSON list of workers is refused.  Bodies are any bytes, or did not come whole.
-/

namespace ClusterCapacity

/-! ### Bodies -/

/-- Whether bytes are a JSON list of records that spell the workers.  Where the bytes are not those
of a text the list holds the escape of half a character (`Json.ShownAs`), which can stand in
strings that nobody reads but in no name of a member or of a worker or tier. -/
def Worker.SpelledIn (body : List UInt8) (workers : List Worker) : Prop :=
  ∃ text tokens, Json.ShownAs body text ∧ Json.SpellsList Worker.Spelled workers tokens ∧
    Json.Spelling tokens text

/-- Bytes that are read as a list of workers spell them. -/
theorem Worker.spelledIn_of_decodeBytes? {body : List UInt8} {workers : List Worker}
    (h : Json.decodeBytes? Worker.listShape body = some workers) :
    Worker.SpelledIn body workers := by
  unfold Json.decodeBytes? at h
  cases hdecode : Json.decode Worker.listShape (String.ofList (Json.ofBytes body)) with
  | error error =>
    rw [hdecode] at h
    nomatch h
  | ok found =>
    rw [hdecode] at h
    obtain rfl := Option.some.inj h
    obtain ⟨tokens, htokens, hspelling⟩ :=
      Json.exists_spelling_of_decode sound_listShape careful_listShape hdecode
    rw [String.toList_ofList] at hspelling
    exact ⟨Json.ofBytes body, tokens, Json.shownAs_ofBytes body, htokens, hspelling⟩

/-- The bytes of the compact list of workers are read as the workers. -/
theorem Worker.decodeBytes?_compact (workers : List Worker) :
    Json.decodeBytes? Worker.listShape (Worker.listToJson workers).compact.toUTF8.toList
      = some workers := by
  rw [Json.decodeBytes?_toUTF8, Json.decode_compact (Worker.inverts_listShape workers)]
  rfl

/-- What begins like an object is no list. -/
theorem Worker.not_spelledIn_of_brace {body : String} {text : List Char}
    (h : body.toList = '{' :: text) (workers : List Worker) :
    ¬ Worker.SpelledIn body.toUTF8.toList workers := by
  rintro ⟨shown, tokens, hshown, ⟨items, -, rfl⟩, hspelling⟩
  rw [hshown.eq_toList, h, Json.listTokens] at hspelling
  generalize hbody : '{' :: text = characters at hspelling
  cases hspelling with
  | @cons _ _ blanks _ _ hblanks htoken =>
    cases htoken
    cases blanks with
    | nil => cases hbody
    | cons blank blanks =>
      obtain ⟨rfl, -⟩ := List.cons.inj hbody
      exact Bool.false_ne_true (hblanks '{' List.mem_cons_self)

/-- A byte that is no character is passed over in a member that nobody asked for. -/
example :
    let known := "\"hostName\":\"a\",\"lastContactSec\":0,\"capacityBytes\":5,\"usedBytes\":7"
    let body := ("[\x7b" ++ known ++ ",\"note\":\"").toUTF8.toList ++ 0xFF
      :: "\"\x7d]".toUTF8.toList
    Json.decodeBytes? Worker.listShape body = some [⟨"a", 0, 5, 7, ∅, ∅⟩] := by
  decide +kernel

/-! ### Answers -/

namespace Response

variable {url : Url} {status : Nat} {body : Option (List UInt8)}

/-- The body of an answer with status 200 is decoded. -/
theorem workers_of_success (url : Url) (body : Option (List UInt8)) :
    (⟨200, body⟩ : Response).workers url
      = match body.bind (Json.decodeBytes? Worker.listShape) with
        | some workers => .ok workers
        | none => .error (.request .malformedAnswer) := by
  have hsuccess : (⟨200, body⟩ : Response).isSuccess = true := rfl
  rw [workers, if_pos hsuccess]
  rfl

/-- The status of a failure is told without a look at the body. -/
theorem workers_of_failure (hlow : 400 ≤ status) :
    (⟨status, body⟩ : Response).workers url = .error (.status status url.text) := by
  have hfailure : (⟨status, body⟩ : Response).isSuccess = false := by
    simp only [isSuccess, Bool.and_eq_false_iff, decide_eq_false_iff_not]
    omega
  simp only [workers, hfailure, Bool.false_eq_true, ↓reduceIte]

/-- A body that spells no list of workers is refused. -/
theorem workers_of_malformed (h : ∀ bytes ∈ body, ∀ workers, ¬ Worker.SpelledIn bytes workers) :
    (⟨200, body⟩ : Response).workers url = .error (.request .malformedAnswer) := by
  have hnone : body.bind (Json.decodeBytes? Worker.listShape) = none := by
    cases body with
    | none => rfl
    | some bytes =>
      refine Option.eq_none_iff_forall_ne_some.mpr fun workers hdecode => ?_
      exact h bytes rfl workers (Worker.spelledIn_of_decodeBytes? hdecode)
  rw [workers_of_success, hnone]

end Response

namespace Machine

/-- The machine after one more request, and after telling about this and other events. -/
def asked (url : Url) (events : List Event) (machine : Machine) : Machine :=
  machine.noted (events.reverse ++ .requestingWorkers url.text :: machine.events)
    (url :: machine.requests)

/-- What becomes of a report with the workers of a source. -/
def generated (source : Source (StateM Machine)) (displayTiers : List String)
    (selector : Selector) (machine : Machine) : Except ReportError Report × Machine :=
  ((⟨source, displayTiers, log⟩ : Generator (StateM Machine)).generate selector sink).run machine

variable {machine : Machine} {timeout : Duration} {master url : Url} {query : Query}
  {selector : Selector} {displayTiers : List String} {source : Source (StateM Machine)}

/-- A master that can be asked is asked once, and its answer tells the workers. -/
theorem run_fetch_master (hurl : query.url master = .ok url) (hask : url.canBeAsked = true)
    {response : Response} (hanswer : machine.answer timeout url = some response) :
    ((Source.master log (host.send timeout) master).fetch query).run machine
      = match response.workers url with
        | .error error => (.error error, machine.asked url [])
        | .ok workers => (.ok workers, machine.asked url [.receivedWorkers workers.length]) := by
  let requesting := machine.told [.requestingWorkers url.text]
  have hsend : (url.ask (host.send timeout)).run requesting
      = (.ok response, machine.asked url []) := by
    have hsent : host.send timeout url requesting = (some response, machine.asked url []) :=
      Prod.ext hanswer rfl
    rw [Url.ask, hask, if_pos rfl, Steps.run_liftM_bind, hsent]
    rfl
  have hlog : log (.requestingWorkers url.text) machine = ((), requesting) := rfl
  unfold Source.master
  dsimp only
  rw [hurl, Steps.run_bind, Steps.run_ofExcept]
  dsimp only
  rw [Steps.run_liftM_bind, hlog, Steps.run_bind, Steps.run_adapt, hsend]
  dsimp only [Except.mapError]
  rw [Steps.run_bind, Steps.run_ofExcept]
  cases response.workers url <;> rfl

/-! ### Reports -/

theorem generated_of_error {error : SourceError} {after : Machine}
    (h : (source.fetch selector.query).run machine = (.error error, after)) :
    machine.generated source displayTiers selector = (.error (.source error), after) := by
  rw [generated, run_generator, h]

/-- The workers of a source are all that a report and its delivery depend on. -/
theorem generated_of_ok {workers : List Worker} {events : List Event} {requests : List Url}
    (h : (source.fetch selector.query).run machine = (.ok workers, machine.noted events requests)) :
    machine.generated source displayTiers selector =
      let report := Report.collect displayTiers selector.range workers
      (((machine.delivered report).mapError .output).map (fun _ => report),
        machine.written report ((report.notes workers).reverse ++ events) requests) := by
  rw [generated, run_generator, h]
  -- the notes about the workers do not touch what the delivery depends on
  let report := Report.collect displayTiers selector.range workers
  have htold : (machine.noted events requests).told (report.notes workers)
      = machine.noted ((report.notes workers).reverse ++ events) requests := rfl
  dsimp only
  rw [htold, run_deliver_noted]
  cases machine.delivered report <;> rfl

end Machine

/-! ### Both sources -/

/-- Let a master be one that can be asked for the workers of a selector.  If it answers with the
compact JSON list of those that a file selects from its snapshot, both sources fetch the same
workers, and the report and everything that is written are those of the file; only a request has
been sent besides, and other events were told.  If it answers with a status of 400 or more, whatever
the body, this status and the URL of the request are told; if its answer is not a JSON list of
workers, this is told; and nothing is written. -/
theorem sources_interchangeable (machine : Machine) (timeout : Duration) {master url : Url}
    {selector : Selector} (hurl : selector.query.url master = .ok url)
    (hask : url.canBeAsked = true) :
    let source : Source (StateM Machine) := .master Machine.log (Machine.host.send timeout) master
    (∀ {path text : String} {snapshot : Snapshot},
      machine.contents path = .ok text.toUTF8.toList →
      Snapshot.decode path text = .ok snapshot →
      let workers := snapshot.select selector.query
      machine.answer timeout url
        = some ⟨200, some (Worker.listToJson workers).compact.toUTF8.toList⟩ →
      let file : Source (StateM Machine) := .file Machine.log Machine.host.readText path
      (file.fetch selector.query).run machine = (.ok workers, machine.told [snapshot.loaded]) ∧
      (source.fetch selector.query).run machine
        = (.ok workers, machine.asked url [.receivedWorkers workers.length]) ∧
      ∀ displayTiers, ∃ result after events,
        machine.generated file displayTiers selector = (result, after) ∧
        machine.generated source displayTiers selector
          = (result, after.noted events (url :: after.requests)) ∧
        (machine.behaviour.Accepting →
          result = .ok (snapshot.report displayTiers selector) ∧
          after.output.contents = machine.output.contents
            ++ (snapshot.report displayTiers selector).text.toUTF8.toList)) ∧
    (∀ {status : Nat} {body : Option (List UInt8)}, 400 ≤ status →
      machine.answer timeout url = some ⟨status, body⟩ →
      (source.fetch selector.query).run machine
        = (.error (.status status url.text), machine.asked url []) ∧
      ∀ displayTiers, machine.generated source displayTiers selector
        = (.error (.source (.status status url.text)), machine.asked url [])) ∧
    (∀ {body : Option (List UInt8)},
      (∀ bytes ∈ body, ∀ workers, ¬ Worker.SpelledIn bytes workers) →
      machine.answer timeout url = some ⟨200, body⟩ →
      (source.fetch selector.query).run machine
        = (.error (.request .malformedAnswer), machine.asked url []) ∧
      ∀ displayTiers, machine.generated source displayTiers selector
        = (.error (.source (.request .malformedAnswer)), machine.asked url [])) := by
  intro source
  refine ⟨?_, ?_, ?_⟩
  · intro path text snapshot hread hdecode workers hanswer file
    have hfile := Machine.run_fetch_of_decode hread hdecode selector.query
    have hmaster := Machine.run_fetch_master hurl hask hanswer
    rw [Response.workers_of_success, Option.bind_some, Worker.decodeBytes?_compact] at hmaster
    refine ⟨hfile, hmaster, ?_⟩
    intro displayTiers
    refine ⟨_, _, _, Machine.generated_of_ok hfile, Machine.generated_of_ok hmaster, ?_⟩
    intro hsink
    let report := snapshot.report displayTiers selector
    have hdelivered : machine.delivered report = .ok () :=
      Machine.delivered_of_accepting hsink report
    refine ⟨?_, Machine.contents_outputWith hdelivered⟩
    show ((machine.delivered report).mapError ReportError.output).map (fun _ => report)
      = .ok report
    rw [hdelivered]
    rfl
  · intro status body hlow hanswer
    have hmaster := Machine.run_fetch_master hurl hask hanswer
    rw [Response.workers_of_failure hlow] at hmaster
    exact ⟨hmaster, fun _ => Machine.generated_of_error hmaster⟩
  · intro body hbody hanswer
    have hmaster := Machine.run_fetch_master hurl hask hanswer
    rw [Response.workers_of_malformed hbody] at hmaster
    exact ⟨hmaster, fun _ => Machine.generated_of_error hmaster⟩

/-- The list of the lost workers with status 200 and with status 404, a worker without a list, and
a body that did not come whole. -/
theorem sources_interchangeable_lost_worker :
    let worker : Worker := ⟨"a\"b", 900, 5, 7, TierMap.ofList [("SSD", 5)], ∅⟩
    let snapshot : Snapshot := ⟨[⟨"c", 1, 2, 0, ∅, ∅⟩], [worker]⟩
    let bytes := snapshot.toJson.pretty.toUTF8.toList
    let answering (status : Nat) (body : Option (List UInt8)) : Machine := {
      files := .directory [("cluster.json", .file bytes)]
      answer := fun _ _ => some ⟨status, body⟩ }
    let master : Url := ⟨"http".toList, some ⟨none, .name "master".toList, some 9000⟩,
      .segments ["cluster".toList, []], none, none⟩
    let url : Url := { master with
      path := .segments (["cluster", "api", "v1", "master", "worker_report"].map String.toList)
      query := some ("range=LOST&fields=ADDRESS%2CCAPACITY_BYTES%2CCAPACITY_BYTES_ON_TIERS".toList
        ++ "%2CLAST_CONTACT_SEC%2CUSED_BYTES%2CUSED_BYTES_ON_TIERS".toList) }
    let source : Source (StateM Machine) := .master Machine.log (Machine.host.send .zero) master
    let list := some (Worker.listToJson [worker]).compact.toUTF8.toList
    let object := some worker.toJson.compact.toUTF8.toList
    (∃ after, (answering 200 list).generated source ["SSD"] .lost
        = (.ok (snapshot.report ["SSD"] .lost), after) ∧
      after.output.contents = (snapshot.report ["SSD"] .lost).text.toUTF8.toList) ∧
    (answering 404 list).generated source ["SSD"] .lost
      = (.error (.source (.status 404 url.text)), (answering 404 list).asked url []) ∧
    ∀ body ∈ [object, none], (answering 200 body).generated source ["SSD"] .lost
      = (.error (.source (.request .malformedAnswer)), (answering 200 body).asked url []) := by
  intro worker snapshot bytes answering master url source list object
  have hurl : Selector.lost.query.url master = .ok url := by decide +kernel
  have hask : url.canBeAsked = true := by rfl
  have hread (bytes : List UInt8) :
      (FileNode.directory [("cluster.json", .file bytes)]).read [] "cluster.json" = .ok bytes := rfl
  have hdecode : Snapshot.decode "cluster.json" snapshot.toJson.pretty = .ok snapshot :=
    Json.decode_pretty (Snapshot.inverts_shape snapshot)
  have hobject : ∀ workers, ¬ Worker.SpelledIn worker.toJson.compact.toUTF8.toList workers :=
    Worker.not_spelledIn_of_brace (String.toList_ofList ..)
  refine ⟨?_, ?_, ?_⟩
  · obtain ⟨-, -, hgenerated⟩ :=
      (sources_interchangeable (answering 200 list) .zero hurl hask).1 (hread _) hdecode rfl
    obtain ⟨result, after, events, -, hmaster, haccepting⟩ := hgenerated ["SSD"]
    obtain ⟨rfl, hcontents⟩ := haccepting Buffer.accepting_unbounded
    exact ⟨after.noted events (url :: after.requests), hmaster, hcontents⟩
  · exact ((sources_interchangeable (answering 404 list) .zero hurl hask).2.1
      (by decide) rfl).2 ["SSD"]
  · intro body hbody
    have hmalformed : ∀ bytes ∈ body, ∀ workers, ¬ Worker.SpelledIn bytes workers := by
      simp only [List.mem_cons, List.not_mem_nil, or_false] at hbody
      rcases hbody with rfl | rfl
      · rintro bytes hbytes
        obtain rfl := Option.some.inj hbytes
        exact hobject
      · nofun
    exact ((sources_interchangeable (answering 200 body) .zero hurl hask).2.2
      hmalformed rfl).2 ["SSD"]

end ClusterCapacity
