/- source: src/src/controllers/topic.rs (parse_topic_state, create_or_update_topic, fetch_topic_state)
   digest: What a response body says about a topic, and when a conflict body decides the state. -/

import StreamlineOperator.Controllers.Topic

set_option autoImplicit false
set_option relaxedAutoImplicit false

namespace StreamlineOperator.Controllers

open Foundation
open Kubernetes
open Crd (StreamlineCluster StreamlineTopic)

namespace TopicController

/-- The accepted spellings of the two numbers. -/
def partitionsKeys : List String := ["partitions", "partition_count", "partitionCount"]

def replicationFactorKeys : List String := ["replication_factor", "replicationFactor"]

def HoldsInteger (root : Json) (key : String) (n : Int) : Prop :=
  root.members.lookup key = some (.num (.int n))

/-- One of the spellings holds the number, and none holds another one. -/
def StatedAs (root : Json) (keys : List String) (number : Int32) : Prop :=
  (∃ key ∈ keys, HoldsInteger root key number.toInt) ∧
    ∀ key ∈ keys, ∀ n, HoldsInteger root key n → n = number.toInt

/-- The first of the spellings that holds a 64-bit integer holds the number. -/
def FirstStated (root : Json) (keys : List String) (number : Int32) : Prop :=
  ∃ before key after, keys = before ++ key :: after ∧ HoldsInteger root key number.toInt ∧
    ∀ k ∈ before, ∀ n, HoldsInteger root k n →
      n < -9223372036854775808 ∨ 9223372036854775807 < n

/-- The number stands under one of the spellings in the body or in its `topic`. -/
def Occurs (body : Option Json) (keys : List String) (number : Int32) : Prop :=
  ∃ json root key, body = some json ∧ (root = json ∨ json.members.lookup "topic" = some root) ∧
    key ∈ keys ∧ HoldsInteger root key number.toInt

/-! Reading one number. -/

section Numbers

variable {root : Json} {keys : List String} {number : Int32}

/-- The 64-bit integer under a key, as the parser asks for it. -/
private def integerAt (root : Json) (key : String) : Option Int64 :=
  (root.members.lookup key).bind Decoder.int64

private theorem int64_eq_some {value : Json} {v : Int64} :
    Decoder.int64 value = some v ↔ value = .num (.int v.toInt) := by
  constructor
  · intro h
    unfold Decoder.int64 at h
    split at h
    · rename_i n
      split at h
      · rename_i hrange
        obtain ⟨hlo, hhi⟩ := hrange
        obtain rfl := Option.some.inj h
        rw [Int64.toInt_ofInt_of_le (by omega) (by omega)]
      · cases h
    · cases h
  · rintro rfl
    exact Decoder.int64_inverts.decode v

private theorem integerAt_eq_some {key : String} {v : Int64} :
    integerAt root key = some v ↔ HoldsInteger root key v.toInt := by
  rw [integerAt, Option.bind_eq_some_iff]
  constructor
  · rintro ⟨value, hvalue, hint⟩
    rw [HoldsInteger, hvalue, int64_eq_some.mp hint]
  · intro h
    exact ⟨_, h, int64_eq_some.mpr rfl⟩

private theorem integerAt_eq_none {key : String} :
    integerAt root key = none ↔ ∀ n, HoldsInteger root key n →
      n < -9223372036854775808 ∨ 9223372036854775807 < n := by
  rw [Option.eq_none_iff_forall_ne_some]
  constructor
  · intro h n hn
    by_contra hrange
    have htoInt : (Int64.ofInt n).toInt = n := Int64.toInt_ofInt_of_le (by omega) (by omega)
    exact h (Int64.ofInt n) (integerAt_eq_some.mpr (by rwa [htoInt]))
  · intro h v hv
    have hlo := v.le_toInt
    have hhi := v.toInt_lt
    have hrange := h v.toInt (integerAt_eq_some.mp hv)
    omega

theorem reportedNumber_eq_some :
    reportedNumber root keys = some number ↔ FirstStated root keys number := by
  have hlo := number.le_toInt
  have hhi := number.toInt_lt
  have hread : reportedNumber root keys = (keys.findSome? (integerAt root)).bind fun v =>
      if -2147483648 ≤ v.toInt ∧ v.toInt ≤ 2147483647 then some (Int32.ofInt v.toInt) else none :=
    rfl
  rw [hread, Option.bind_eq_some_iff]
  constructor
  · rintro ⟨v, hfind, hfits⟩
    obtain ⟨before, key, after, hkeys, hkey, hbefore⟩ := List.findSome?_eq_some_iff.mp hfind
    refine ⟨before, key, after, hkeys, ?_, fun k hk => integerAt_eq_none.mp (hbefore k hk)⟩
    split at hfits
    · obtain rfl := Option.some.inj hfits
      rw [Int32.toInt_ofInt_of_le (by omega) (by omega)]
      exact integerAt_eq_some.mp hkey
    · cases hfits
  · rintro ⟨before, key, after, hkeys, hkey, hbefore⟩
    have htoInt : (Int64.ofInt number.toInt).toInt = number.toInt :=
      Int64.toInt_ofInt_of_le (by omega) (by omega)
    refine ⟨Int64.ofInt number.toInt, List.findSome?_eq_some_iff.mpr ⟨before, key, after, hkeys,
      integerAt_eq_some.mpr (by rwa [htoInt]),
      fun k hk => integerAt_eq_none.mpr (hbefore k hk)⟩, ?_⟩
    rw [htoInt, if_pos (by omega), Int32.ofInt_toInt]

theorem StatedAs.first (h : StatedAs root keys number) : FirstStated root keys number := by
  obtain ⟨⟨key, hmem, hkey⟩, hagree⟩ := h
  have hlo := number.le_toInt
  have hhi := number.toInt_lt
  have hsome : (keys.findSome? (integerAt root)).isSome := by
    rw [List.findSome?_isSome_iff]
    have htoInt : (Int64.ofInt number.toInt).toInt = number.toInt :=
      Int64.toInt_ofInt_of_le (by omega) (by omega)
    exact ⟨key, hmem, Option.isSome_iff_exists.mpr
      ⟨_, integerAt_eq_some.mpr (by rwa [htoInt])⟩⟩
  obtain ⟨v, hv⟩ := Option.isSome_iff_exists.mp hsome
  obtain ⟨before, first, after, hkeys, hfirst, hbefore⟩ := List.findSome?_eq_some_iff.mp hv
  have hholds := integerAt_eq_some.mp hfirst
  have heq : v.toInt = number.toInt := hagree first (by simp [hkeys]) _ hholds
  exact ⟨before, first, after, hkeys, heq ▸ hholds,
    fun k hk => integerAt_eq_none.mp (hbefore k hk)⟩

theorem FirstStated.holds (h : FirstStated root keys number) :
    ∃ key ∈ keys, HoldsInteger root key number.toInt := by
  obtain ⟨before, key, after, rfl, hkey, -⟩ := h
  exact ⟨key, by simp, hkey⟩

end Numbers

/-! Reading a body. -/

section Bodies

variable {json : Json} {members : Members} {p r : Int32}

private theorem parse_root (json : Json) : parseTopicState (some json) =
    { partitions := reportedNumber ((json.members.lookup "topic").getD json) partitionsKeys
      replicationFactor :=
        reportedNumber ((json.members.lookup "topic").getD json) replicationFactorKeys } := rfl

private theorem parse_eq_some : parseTopicState (some json) = ⟨some p, some r⟩ ↔
    FirstStated ((json.members.lookup "topic").getD json) partitionsKeys p ∧
      FirstStated ((json.members.lookup "topic").getD json) replicationFactorKeys r := by
  rw [parse_root, TopicServerState.mk.injEq, reportedNumber_eq_some, reportedNumber_eq_some]

private theorem occurs_of_reportedNumber {keys : List String} {number : Int32}
    (h : reportedNumber ((json.members.lookup "topic").getD json) keys = some number) :
    Occurs (some json) keys number := by
  obtain ⟨key, hmem, hkey⟩ := (reportedNumber_eq_some.mp h).holds
  refine ⟨json, _, key, rfl, ?_, hmem, hkey⟩
  cases hwrapped : json.members.lookup "topic" with
  | none => exact .inl rfl
  | some inner => exact .inr rfl

private theorem parse_wrapped (hp : StatedAs (.obj members) partitionsKeys p)
    (hr : StatedAs (.obj members) replicationFactorKeys r) {outer : Members}
    (h : outer.lookup "topic" = some (.obj members)) :
    parseTopicState (some (.obj outer)) = ⟨some p, some r⟩ := by
  rw [parse_eq_some]
  have hroot : ((Json.obj outer).members.lookup "topic").getD (.obj outer) = .obj members := by
    rw [Json.members, h, Option.getD_some]
  rw [hroot]
  exact ⟨hp.first, hr.first⟩

/-- A well-formed report is read in both forms exactly when a `topic` member of
its own states the same numbers. No body makes the parser invent a number. -/
theorem parseTopicState_reads_iff (members : Members) (p r : Int32)
    (hp : StatedAs (.obj members) partitionsKeys p)
    (hr : StatedAs (.obj members) replicationFactorKeys r) :
    ((parseTopicState (some (.obj members)) = ⟨some p, some r⟩ ∧
        ∀ outer : Members, outer.lookup "topic" = some (.obj members) →
          parseTopicState (some (.obj outer)) = ⟨some p, some r⟩) ↔
      ∀ own, members.lookup "topic" = some own →
        FirstStated own partitionsKeys p ∧ FirstStated own replicationFactorKeys r) ∧
    ∀ body, (∀ n, (parseTopicState body).partitions = some n → Occurs body partitionsKeys n) ∧
      ∀ n, (parseTopicState body).replicationFactor = some n →
        Occurs body replicationFactorKeys n := by
  constructor
  · constructor
    · rintro ⟨hbare, -⟩ own hown
      have hroot : ((Json.obj members).members.lookup "topic").getD (.obj members) = own := by
        rw [Json.members, hown, Option.getD_some]
      rw [parse_eq_some, hroot] at hbare
      exact hbare
    · intro hown
      refine ⟨?_, fun outer houter => parse_wrapped hp hr houter⟩
      rw [parse_eq_some]
      cases htopic : members.lookup "topic" with
      | none =>
        have hroot : ((Json.obj members).members.lookup "topic").getD (.obj members) =
            .obj members := by
          rw [Json.members, htopic, Option.getD_none]
        rw [hroot]
        exact ⟨hp.first, hr.first⟩
      | some own =>
        have hroot : ((Json.obj members).members.lookup "topic").getD (.obj members) = own := by
          rw [Json.members, htopic, Option.getD_some]
        rw [hroot]
        exact hown own htopic
  · intro body
    cases body with
    | none =>
      constructor
      · intro n h
        cases h
      · intro n h
        cases h
    | some json =>
      exact ⟨fun n h => occurs_of_reportedNumber h, fun n h => occurs_of_reportedNumber h⟩

/-- A topic of three partitions and one replica, with one member more. -/
private def report (key : String) (value : Json) : Members :=
  [("partitionCount", .num (.int 3)), ("replication_factor", .num (.int 1)), (key, value)]

private theorem report_partitions {key : String} {value : Json}
    (h : key ∉ partitionsKeys) : StatedAs (.obj (report key value)) partitionsKeys 3 := by
  simp only [partitionsKeys, List.mem_cons, List.not_mem_nil, or_false, not_or] at h
  constructor
  · exact ⟨"partitionCount", by simp [partitionsKeys], rfl⟩
  · intro k hk n hn
    simp only [partitionsKeys, List.mem_cons, List.not_mem_nil, or_false] at hk
    rcases hk with rfl | rfl | rfl <;>
      simp [HoldsInteger, report, Json.members, Members.lookup_cons, h] at hn
    exact hn.symm

private theorem report_replicationFactor {key : String} {value : Json}
    (h : key ∉ replicationFactorKeys) :
    StatedAs (.obj (report key value)) replicationFactorKeys 1 := by
  simp only [replicationFactorKeys, List.mem_cons, List.not_mem_nil, or_false, not_or] at h
  constructor
  · exact ⟨"replication_factor", by simp [replicationFactorKeys], rfl⟩
  · intro k hk n hn
    simp only [replicationFactorKeys, List.mem_cons, List.not_mem_nil, or_false] at hk
    rcases hk with rfl | rfl <;>
      simp [HoldsInteger, report, Json.members, Members.lookup_cons, h] at hn
    exact hn.symm

theorem parseTopicState_reads_iff_named :
    ((parseTopicState (some (.obj (report "name" (.str "orders")))) = ⟨some 3, some 1⟩ ∧
        ∀ outer : Members,
          outer.lookup "topic" = some (.obj (report "name" (.str "orders"))) →
          parseTopicState (some (.obj outer)) = ⟨some 3, some 1⟩) ↔
      ∀ own, Members.lookup (report "name" (.str "orders")) "topic" = some own →
        FirstStated own partitionsKeys 3 ∧ FirstStated own replicationFactorKeys 1) ∧
    ∀ body, (∀ n, (parseTopicState body).partitions = some n → Occurs body partitionsKeys n) ∧
      ∀ n, (parseTopicState body).replicationFactor = some n →
        Occurs body replicationFactorKeys n :=
  parseTopicState_reads_iff _ 3 1 (report_partitions (by decide))
    (report_replicationFactor (by decide))

/-- A bare report that names the topic under `topic` is taken for a wrapper. -/
theorem bare_report_unread :
    ¬ ∀ (members : Members) (p r : Int32), StatedAs (.obj members) partitionsKeys p →
      StatedAs (.obj members) replicationFactorKeys r →
        parseTopicState (some (.obj members)) = ⟨some p, some r⟩ ∧
          ∀ outer : Members, outer.lookup "topic" = some (.obj members) →
            parseTopicState (some (.obj outer)) = ⟨some p, some r⟩ := by
  intro h
  obtain ⟨hbare, -⟩ := h (report "topic" (.str "orders")) 3 1 (report_partitions (by decide))
    (report_replicationFactor (by decide))
  have hempty : parseTopicState (some (.obj (report "topic" (.str "orders")))) = {} := rfl
  rw [hempty] at hbare
  cases hbare

end Bodies

/-! The state after a conflict. -/

section Conflicts

variable {topic : StreamlineTopic} {cluster : StreamlineCluster}

/-- What the answer to the read-back says about the topic. -/
def readBackState : Except String HttpResponse → TopicServerState
  | .ok response => if response.isSuccess then parseTopicState response.json else {}
  | .error _ => {}

/-- A run whose POST is answered with the conflict, and whose GET, if there is
one, with the other answer. -/
def ConflictRun (topic : StreamlineTopic) (cluster : StreamlineCluster) (conflict : HttpResponse)
    (readBack : Except String HttpResponse) (res : Except OperatorError TopicServerState) : Prop :=
  ∃ rest : List ApiExchange,
    Program.Runs (createOrUpdateTopic topic cluster)
        (⟨.httpPost (createUrl cluster) (topicConfig topic), .ok conflict⟩ :: rest) res ∧
      ∀ e ∈ rest, e = ⟨.httpGet (readUrl topic cluster), readBack⟩

theorem runs_fetchTopicState {endpoint name : String} {tr : List ApiExchange}
    {res : Except OperatorError TopicServerState} :
    Program.Runs (fetchTopicState endpoint name) tr res ↔
      ∃ answer, tr = [⟨.httpGet (endpoint ++ "/api/v1/topics/" ++ name), answer⟩] ∧
        res = .ok (readBackState answer) := by
  simp only [fetchTopicState, send, Program.bind_eq, Program.send_bind, Program.runs_call]
  constructor
  · rintro ⟨answer, tr', rfl, h⟩
    cases answer <;>
      · obtain ⟨rfl, rfl⟩ := Program.runs_ok.mp h
        exact ⟨_, rfl, rfl⟩
  · rintro ⟨answer, rfl, rfl⟩
    refine ⟨answer, [], rfl, ?_⟩
    cases answer <;> exact Program.runs_ok.mpr ⟨rfl, rfl⟩

private theorem conflictRun_iff {conflict : HttpResponse} {readBack : Except String HttpResponse}
    {res : Except OperatorError TopicServerState} (h : conflict.status = 409) :
    ConflictRun topic cluster conflict readBack res ↔
      res = .ok (if (parseTopicState conflict.json).isEmpty then readBackState readBack
        else parseTopicState conflict.json) := by
  have hruns : ∀ rest, Program.Runs (createOrUpdateTopic topic cluster)
        (⟨.httpPost (createUrl cluster) (topicConfig topic), .ok conflict⟩ :: rest) res ↔
      Program.Runs (createdTopicState topic (httpEndpoint cluster cluster.namespaceOrDefault)
        conflict) rest res := by
    intro rest
    simp only [createOrUpdateTopic, send, Program.bind_eq, Program.send_bind, Program.runs_call]
    constructor
    · rintro ⟨answer, tr', htr, hrun⟩
      cases htr
      exact hrun
    · intro hrun
      exact ⟨_, rest, rfl, hrun⟩
  have hanswered : ¬ (!conflict.isSuccess && conflict.status ≠ 409) = true := by simp [h]
  simp only [ConflictRun, hruns, createdTopicState, if_neg hanswered]
  split
  · constructor
    · rintro ⟨rest, hrun, hrest⟩
      obtain ⟨answer, rfl, rfl⟩ := runs_fetchTopicState.mp hrun
      cases hrest _ (List.mem_singleton_self _)
      rfl
    · rintro rfl
      refine ⟨_, runs_fetchTopicState.mpr ⟨readBack, rfl, rfl⟩, ?_⟩
      intro e he
      exact List.mem_singleton.mp he
  · constructor
    · rintro ⟨rest, hrun, -⟩
      exact (Program.runs_ok.mp hrun).2
    · rintro rfl
      exact ⟨[], Program.runs_ok.mpr ⟨rfl, rfl⟩, by simp⟩

/-- The conflict body has no part in the state: it holds no number, or the ones
the topic is then read with. -/
def Mute (conflict : HttpResponse) (readBack : Except String HttpResponse) : Prop :=
  (parseTopicState conflict.json).isEmpty = true ∨
    parseTopicState conflict.json = readBackState readBack

private theorem mute_iff {conflict : HttpResponse} {readBack : Except String HttpResponse} :
    Mute conflict readBack ↔
      (if (parseTopicState conflict.json).isEmpty then readBackState readBack
        else parseTopicState conflict.json) = readBackState readBack := by
  unfold Mute
  split
  · rename_i hempty
    exact iff_of_true (.inl hempty) rfl
  · rename_i hempty
    exact or_iff_right hempty

/-- Two runs with any two conflict bodies and one read-back end in the state that
was read back exactly when both bodies are mute. -/
theorem conflictBodies_ignored_iff (topic : StreamlineTopic) (cluster : StreamlineCluster)
    (conflict conflict' : HttpResponse) (readBack : Except String HttpResponse)
    (h : conflict.status = 409) (h' : conflict'.status = 409) :
    (∀ res res', ConflictRun topic cluster conflict readBack res →
        ConflictRun topic cluster conflict' readBack res' →
        res = res' ∧ res = .ok (readBackState readBack)) ↔
      Mute conflict readBack ∧ Mute conflict' readBack := by
  rw [mute_iff, mute_iff]
  constructor
  · intro hall
    obtain ⟨hsame, hback⟩ := hall _ _ ((conflictRun_iff h).mpr rfl) ((conflictRun_iff h').mpr rfl)
    exact ⟨Except.ok.inj hback, Except.ok.inj (hsame.symm.trans hback)⟩
  · rintro ⟨hmute, hmute'⟩ res res' hrun hrun'
    have hres := (conflictRun_iff h).mp hrun
    have hres' := (conflictRun_iff h').mp hrun'
    rw [hmute] at hres
    rw [hmute'] at hres'
    exact ⟨hres.trans hres'.symm, hres⟩

/-- A conflict whose body says only why. -/
private def plainConflict : HttpResponse where
  status := 409
  reason := "Conflict"
  text := "\x7b\"error\":\"topic exists\"\x7d"
  json := some (.obj [("error", .str "topic exists")])

/-- A conflict whose body repeats the request. -/
private def echoingConflict : HttpResponse where
  status := 409
  reason := "Conflict"
  text := "\x7b\"name\":\"orders\",\"partitions\":6\x7d"
  json := some (.obj [("name", .str "orders"), ("partitions", .num (.int 6))])

/-- The topic as it exists. -/
private def existingTopic : HttpResponse where
  status := 200
  reason := "OK"
  text := "\x7b\"partitions\":3,\"replication_factor\":1\x7d"
  json := some (.obj [("partitions", .num (.int 3)), ("replication_factor", .num (.int 1))])

private def ordersTopic : StreamlineTopic where
  metadata := { name := some "orders" }
  spec := { clusterRef := "events", partitions := 6 }
  status := none

private def eventsCluster : StreamlineCluster where
  metadata := { name := some "events" }
  spec := {}
  status := none

theorem conflictBodies_ignored_iff_plain :
    (∀ res res', ConflictRun ordersTopic eventsCluster plainConflict (.ok existingTopic) res →
        ConflictRun ordersTopic eventsCluster plainConflict (.ok existingTopic) res' →
        res = res' ∧ res = .ok (readBackState (.ok existingTopic))) ↔
      Mute plainConflict (.ok existingTopic) ∧ Mute plainConflict (.ok existingTopic) :=
  conflictBodies_ignored_iff ordersTopic eventsCluster plainConflict plainConflict
    (.ok existingTopic) rfl rfl

/-- A body that repeats the request hides the topic that exists. -/
theorem echoing_conflict_decides :
    ¬ ∀ (topic : StreamlineTopic) (cluster : StreamlineCluster) (conflict conflict' : HttpResponse)
        (readBack : Except String HttpResponse), conflict.status = 409 → conflict'.status = 409 →
      ∀ res res', ConflictRun topic cluster conflict readBack res →
        ConflictRun topic cluster conflict' readBack res' →
        res = res' ∧ res = .ok (readBackState readBack) := by
  intro hall
  have hplain : ConflictRun ordersTopic eventsCluster plainConflict (.ok existingTopic)
      (.ok ⟨some 3, some 1⟩) := (conflictRun_iff rfl).mpr rfl
  have hechoing : ConflictRun ordersTopic eventsCluster echoingConflict (.ok existingTopic)
      (.ok ⟨some 6, none⟩) := (conflictRun_iff rfl).mpr rfl
  obtain ⟨hsame, -⟩ := hall ordersTopic eventsCluster echoingConflict plainConflict
    (.ok existingTopic) rfl rfl _ _ hechoing hplain
  cases hsame

end Conflicts

end TopicController

end StreamlineOperator.Controllers
