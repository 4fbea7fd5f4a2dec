/- source: src/src/controllers/cluster.rs (render_config), src/src/crd/cluster.rs
   digest: The rendered configuration file decodes back to the spec when its log level is plain text. -/

import StreamlineOperator.Controllers.ClusterRender
import StreamlineOperator.Foundation.TomlLines
import StreamlineOperator.Foundation.TomlTables

set_option autoImplicit false
set_option relaxedAutoImplicit false

namespace StreamlineOperator.Controllers

open Foundation
open Toml (SimpleLine printed)
open Crd (StreamlineCluster ClusterTls)

namespace ClusterController

/-- TLS is on, and client certificates are asked for. -/
def tlsEnabled (tls : Option ClusterTls) : Bool := tls.any ClusterTls.enabled

def mtlsEnabled (tls : Option ClusterTls) : Bool :=
  tls.any (fun tls => tls.enabled && tls.mtlsEnabled)

/-- The address is the wildcard with this port, and with no other. -/
def ListensOn (value : Option Toml) (port : Int32) : Prop :=
  ∃ address, value = some (.string address) ∧
    ∀ other : Int32, address = "0.0.0.0:" ++ toString other ↔ other = port

/-- What the `[server]` table holds. -/
structure ServerDecodes (cluster : StreamlineCluster) (members : Toml.Members) : Prop where
  keys : (members.map Prod.fst).Perm ["listen_addr", "http_addr", "data_dir", "log_level"]
  listenAddr : ListensOn (Toml.lookup "listen_addr" members) cluster.spec.kafkaPort
  httpAddr : ListensOn (Toml.lookup "http_addr" members) cluster.spec.httpPort
  dataDir : Toml.lookup "data_dir" members = some (.string "/data")
  logLevel : Toml.lookup "log_level" members = some (.string cluster.spec.logLevel)

/-- What the `[tls]` table holds. -/
structure TlsDecodes (mtls : Bool) (members : Toml.Members) : Prop where
  keys : (members.map Prod.fst).Perm
    (["enabled", "cert", "key"] ++ if mtls then ["require_client_cert", "ca_cert"] else [])
  enabled : Toml.lookup "enabled" members = some (.boolean true)
  cert : Toml.lookup "cert" members = some (.string "/etc/streamline-tls/tls.crt")
  key : Toml.lookup "key" members = some (.string "/etc/streamline-tls/tls.key")
  requireClientCert : mtls = true →
    Toml.lookup "require_client_cert" members = some (.boolean true)
  caCert : mtls = true →
    Toml.lookup "ca_cert" members = some (.string "/etc/streamline-tls-ca/ca.crt")

/-- The document has the tables of the cluster, with their values, and nothing else. -/
structure ConfigDecodes (cluster : StreamlineCluster) (document : Toml.Members) : Prop where
  tables : (document.map Prod.fst).Perm
    ("server" :: if tlsEnabled cluster.spec.tls then ["tls"] else [])
  server : ∃ members, Toml.lookup "server" document = some (.table .header members) ∧
    ServerDecodes cluster members
  tls : tlsEnabled cluster.spec.tls = true →
    ∃ members, Toml.lookup "tls" document = some (.table .header members) ∧
      TlsDecodes (mtlsEnabled cluster.spec.tls) members

/-- The lines in front of the log level. -/
def configLines (cluster : StreamlineCluster) : List SimpleLine :=
  [.comment " Managed by streamline-operator. Do not edit.",
    .comment (" Rendered from StreamlineCluster/" ++ cluster.nameAny), .blank, .header "server",
    .quoted "listen_addr" ("0.0.0.0:" ++ toString cluster.spec.kafkaPort),
    .quoted "http_addr" ("0.0.0.0:" ++ toString cluster.spec.httpPort),
    .quoted "data_dir" "/data"]

/-- The lines behind it. -/
def tlsLines (tls : Option ClusterTls) : List SimpleLine :=
  if tlsEnabled tls then
    [.blank, .header "tls", .flag "enabled" true, .quoted "cert" "/etc/streamline-tls/tls.crt",
      .quoted "key" "/etc/streamline-tls/tls.key"] ++
      if mtlsEnabled tls then
        [.flag "require_client_cert" true, .quoted "ca_cert" "/etc/streamline-tls-ca/ca.crt"]
      else []
  else []

private theorem renderTls_toList (tls : Option ClusterTls) :
    (renderTls tls).toList = printed (tlsLines tls) := by
  rw [Toml.printed_eq_toList]
  refine congrArg String.toList ?_
  cases tls with
  | none => rfl
  | some tls =>
    obtain ⟨enabled, secretName, mtlsEnabled, caSecretName, insecureSkipVerify⟩ := tls
    cases enabled <;> cases mtlsEnabled <;> rfl

private theorem regroup_lines (hash managed rendered name blank left server right listen kafka
    equals close http web dir data level log managedLine renderedPart blanks serverLine listenPart
    httpPart dirPart levelPart : String) (hmanaged : managedLine = hash ++ managed ++ blank)
    (hrendered : renderedPart = hash ++ rendered) (hblanks : blanks = blank ++ blank)
    (hserver : serverLine = left ++ server ++ right) (hlisten : listenPart = listen ++ equals)
    (hhttp : httpPart = http ++ equals) (hdir : dirPart = dir ++ equals)
    (hlevel : levelPart = level ++ equals) :
    managedLine ++ renderedPart ++ name ++ blanks ++
        (serverLine ++ listenPart ++ kafka ++ close ++ httpPart ++ web ++ close ++ dirPart ++ data ++
          close ++ levelPart ++ log ++ close) =
      (hash ++ managed ++ blank) ++ ((hash ++ (rendered ++ name) ++ blank) ++ (blank ++
        ((left ++ server ++ right) ++ ((listen ++ equals ++ kafka ++ close) ++
          ((http ++ equals ++ web ++ close) ++ ((dir ++ equals ++ data ++ close) ++
            (level ++ equals ++ log ++ close))))))) := by
  subst hmanaged hrendered hblanks hserver hlisten hhttp hdir hlevel
  simp only [String.append_assoc]

private theorem header_and_section (cluster : StreamlineCluster) :
    (configHeader cluster ++ (serverSection cluster).render).toList =
      printed (configLines cluster) ++
        (SimpleLine.quoted "log_level" cluster.spec.logLevel).print.toList := by
  have hregroup : configHeader cluster ++ (serverSection cluster).render = _ :=
    regroup_lines "#" " Managed by streamline-operator. Do not edit."
      " Rendered from StreamlineCluster/" cluster.nameAny "\n" "[" "server" "]\n" "listen_addr"
      ("0.0.0.0:" ++ toString cluster.spec.kafkaPort) " = \"" "\"\n" "http_addr"
      ("0.0.0.0:" ++ toString cluster.spec.httpPort) "data_dir" "/data" "log_level"
      cluster.spec.logLevel _ _ _ _ _ _ _ _ (by simp) (by simp) (by simp) (by simp) (by simp)
      (by simp) (by simp) (by simp)
  rw [hregroup]
  simp only [configLines, printed, SimpleLine.print, List.flatMap_cons, List.flatMap_nil,
    String.toList_append, List.append_assoc, List.append_nil]

theorem renderConfig_toList (cluster : StreamlineCluster) :
    (renderConfig cluster).toList = printed (configLines cluster) ++
      ((SimpleLine.quoted "log_level" cluster.spec.logLevel).print.toList ++
        printed (tlsLines cluster.spec.tls)) := by
  rw [renderConfig_eq, String.toList_append, header_and_section, renderTls_toList,
    List.append_assoc]

private theorem not_isControl {c : Char} (hlow : 0x20 ≤ c.toNat) (hhigh : c.toNat < 0x7F) :
    Toml.isControl c = false := by
  simp only [Toml.isControl, Bool.or_eq_false_iff, Bool.and_eq_false_iff, decide_eq_false_iff_not]
  omega

private theorem plain_of_isDigit {c : Char} (h : c.isDigit = true) : Toml.isPlain c = true := by
  have hrange : 48 ≤ c.toNat ∧ c.toNat ≤ 57 := by
    simpa [Char.isDigit, UInt32.le_iff_toNat_le] using h
  have hcontrol := not_isControl (c := c) (by omega) (by omega)
  have hquote : c ≠ '"' := by
    rintro rfl
    exact absurd h (by decide)
  have hescape : c ≠ '\\' := by
    rintro rfl
    exact absurd h (by decide)
  simp [Toml.isPlain, hquote, hescape, hcontrol]

private theorem plain_address (port : Int32) :
    ("0.0.0.0:" ++ toString port).toList.all Toml.isPlain = true := by
  rw [String.toList_append, List.all_append, Bool.and_eq_true]
  refine ⟨by decide, List.all_eq_true.mpr (fun c hc => ?_)⟩
  rcases char_of_mem_toString_int32 hc with rfl | hdigit
  · decide
  · exact plain_of_isDigit hdigit

private theorem configLines_plain {cluster : StreamlineCluster}
    (hname : isDns1123Subdomain cluster.nameAny = true) :
    ∀ p ∈ configLines cluster, p.isPlain = true := by
  have hcomment : (" Rendered from StreamlineCluster/" ++ cluster.nameAny).toList.all
      (fun c => !Toml.isControl c) = true := by
    rw [String.toList_append, List.all_append, Bool.and_eq_true]
    refine ⟨by decide, List.all_eq_true.mpr (fun c hc => ?_)⟩
    rcases dns1123_char hname hc with rfl | rfl | hc
    · decide
    · decide
    · have hrange : 48 ≤ c.toNat ∧ c.toNat ≤ 122 := by
        simp only [isLowerAlphanumeric, Bool.or_eq_true, Bool.and_eq_true, decide_eq_true_eq,
          Char.le_def, UInt32.le_iff_toNat_le] at hc
        rcases hc with hc | hc
        · have : 97 ≤ c.toNat ∧ c.toNat ≤ 122 := hc
          omega
        · have : 48 ≤ c.toNat ∧ c.toNat ≤ 57 := hc
          omega
      rw [not_isControl (by omega) (by omega)]
      rfl
  intro p hp
  simp only [configLines, List.mem_cons, List.not_mem_nil, or_false] at hp
  rcases hp with rfl | rfl | rfl | rfl | rfl | rfl | rfl
  · decide
  · exact hcomment
  · rfl
  · decide
  · rw [SimpleLine.isPlain, plain_address]
    decide
  · rw [SimpleLine.isPlain, plain_address]
    decide
  · decide

private theorem tlsLines_plain (tls : Option ClusterTls) : ∀ p ∈ tlsLines tls, p.isPlain = true := by
  unfold tlsLines
  cases tlsEnabled tls <;> cases mtlsEnabled tls <;> decide

/-- The document as the server reads it, with some log level. -/
def serverMembers (cluster : StreamlineCluster) (level : String) : Toml.Members :=
  [("listen_addr", .string ("0.0.0.0:" ++ toString cluster.spec.kafkaPort)),
    ("http_addr", .string ("0.0.0.0:" ++ toString cluster.spec.httpPort)),
    ("data_dir", .string "/data"), ("log_level", .string level)]

def tlsMembers (mtls : Bool) : Toml.Members :=
  [("enabled", .boolean true), ("cert", .string "/etc/streamline-tls/tls.crt"),
    ("key", .string "/etc/streamline-tls/tls.key")] ++
    if mtls then
      [("require_client_cert", .boolean true),
        ("ca_cert", .string "/etc/streamline-tls-ca/ca.crt")]
    else []

theorem run_server (cluster : StreamlineCluster) (level : String) :
    ((configLines cluster).filterMap SimpleLine.meaning ++
        [Toml.Line.keyValue ["log_level"] (.string level)]).foldlM Toml.State.step {} =
      some ⟨[("server", .table .header (serverMembers cluster level))], ["server"]⟩ := by
  rfl

theorem run_tls (tls : Option ClusterTls) (members : Toml.Members) :
    (((tlsLines tls).filterMap SimpleLine.meaning).foldlM Toml.State.step
        ⟨[("server", .table .header members)], ["server"]⟩).map Toml.State.root =
      some (("server", .table .header members) ::
        if tlsEnabled tls then [("tls", .table .header (tlsMembers (mtlsEnabled tls)))] else []) := by
  unfold tlsLines
  cases tlsEnabled tls <;> cases mtlsEnabled tls <;> rfl

private theorem listensOn_of_eq {value : Option Toml} {port : Int32}
    (h : value = some (.string ("0.0.0.0:" ++ toString port))) : ListensOn value port := by
  refine ⟨_, h, fun other => ⟨fun heq => ?_, fun heq => by rw [heq]⟩⟩
  exact (toString_int32_injective ((String.append_right_inj _).mp heq)).symm

theorem serverDecodes (cluster : StreamlineCluster) :
    ServerDecodes cluster (serverMembers cluster cluster.spec.logLevel) where
  keys := .refl _
  listenAddr := listensOn_of_eq rfl
  httpAddr := listensOn_of_eq rfl
  dataDir := rfl
  logLevel := rfl

theorem tlsDecodes (mtls : Bool) : TlsDecodes mtls (tlsMembers mtls) where
  keys := by cases mtls <;> exact .refl _
  enabled := by cases mtls <;> rfl
  cert := by cases mtls <;> rfl
  key := by cases mtls <;> rfl
  requireClientCert h := by
    subst h
    rfl
  caCert h := by
    subst h
    rfl

/-- The document that the file is when the log level is plain. -/
def configDocument (cluster : StreamlineCluster) : Toml.Members :=
  ("server", .table .header (serverMembers cluster cluster.spec.logLevel)) ::
    if tlsEnabled cluster.spec.tls then
      [("tls", .table .header (tlsMembers (mtlsEnabled cluster.spec.tls)))]
    else []

theorem configDocument_decodes (cluster : StreamlineCluster) :
    ConfigDecodes cluster (configDocument cluster) where
  tables := by
    unfold configDocument
    cases tlsEnabled cluster.spec.tls <;> exact .refl _
  server := ⟨_, rfl, serverDecodes cluster⟩
  tls h := by
    refine ⟨_, ?_, tlsDecodes (mtlsEnabled cluster.spec.tls)⟩
    rw [configDocument, h]
    rfl

/-- A plain log level leaves the file the document it is meant to be. -/
theorem parse_renderConfig {cluster : StreamlineCluster}
    (hname : isDns1123Subdomain cluster.nameAny = true)
    (hlevel : cluster.spec.logLevel.toList.all Toml.isPlain = true) :
    Toml.parse (renderConfig cluster) = some (configDocument cluster) := by
  have hlines : (renderConfig cluster).toList =
      printed (configLines cluster ++ .quoted "log_level" cluster.spec.logLevel ::
        tlsLines cluster.spec.tls) := by
    rw [renderConfig_toList]
    simp [printed]
  have hplain : ∀ p ∈ configLines cluster ++ .quoted "log_level" cluster.spec.logLevel ::
      tlsLines cluster.spec.tls, p.isPlain = true := by
    rw [List.forall_mem_append, List.forall_mem_cons]
    refine ⟨configLines_plain hname, ?_, tlsLines_plain _⟩
    rw [SimpleLine.isPlain, hlevel]
    decide
  have hmeaning : (configLines cluster ++ .quoted "log_level" cluster.spec.logLevel ::
        tlsLines cluster.spec.tls).filterMap SimpleLine.meaning =
      ((configLines cluster).filterMap SimpleLine.meaning ++
        [Toml.Line.keyValue ["log_level"] (.string cluster.spec.logLevel)]) ++
        (tlsLines cluster.spec.tls).filterMap SimpleLine.meaning := by
    simp [List.filterMap_append, SimpleLine.meaning]
  rw [Toml.parse_printed hplain hlines, hmeaning, List.foldlM_append, run_server]
  exact run_tls cluster.spec.tls _

private theorem tlsLines_quotes (tls : Option ClusterTls) :
    ∀ p ∈ tlsLines tls, p.print.toList.count '"' ≤ 2 := by
  unfold tlsLines
  cases tlsEnabled tls <;> cases mtlsEnabled tls <;> decide

/-- The log level is read back as it was written only when it is plain. -/
theorem plain_of_decodes {cluster : StreamlineCluster}
    (hname : isDns1123Subdomain cluster.nameAny = true) {document : Toml.Members}
    (hparse : Toml.parse (renderConfig cluster) = some document)
    (decodes : ConfigDecodes cluster document) :
    cluster.spec.logLevel.toList.all Toml.isPlain = true := by
  obtain ⟨level, ls, final, hrun, rfl, hlevel⟩ := Toml.parse_quoted (configLines_plain hname)
    (by decide) (Toml.no_three_quotes (tlsLines_quotes cluster.spec.tls))
    (renderConfig_toList cluster) hparse
  apply hlevel
  have hsplit : (configLines cluster).filterMap SimpleLine.meaning ++
      Toml.Line.keyValue ["log_level"] (.string level) :: ls =
      ((configLines cluster).filterMap SimpleLine.meaning ++
        [Toml.Line.keyValue ["log_level"] (.string level)]) ++ ls := by
    rw [List.append_assoc, List.singleton_append]
  rw [hsplit, List.foldlM_append, run_server] at hrun
  -- whatever the rest of the file says, it leaves the log level as it was read
  have hkept := Toml.State.run_keeps hrun ["server", "log_level"] level rfl
  obtain ⟨members, hserver, hdecodes⟩ := decodes.server
  have hread : Toml.stringAt ["server", "log_level"] final.root = some cluster.spec.logLevel := by
    rw [Toml.stringAt, hserver]
    · simp only [Toml.stringAt, hdecodes.logLevel]
    · simp
  exact Option.some.inj (hkept.symm.trans hread)

/-- The file decodes back to the spec exactly when its log level is plain text: free of
quotes, backslashes and control characters. -/
theorem configDecodes_iff (cluster : StreamlineCluster)
    (hname : isDns1123Subdomain cluster.nameAny = true) :
    (∃ document, Toml.parse (renderConfig cluster) = some document ∧
        ConfigDecodes cluster document) ↔
      cluster.spec.logLevel.toList.all Toml.isPlain = true :=
  ⟨fun ⟨_, hparse, decodes⟩ => plain_of_decodes hname hparse decodes,
    fun hlevel => ⟨_, parse_renderConfig hname hlevel, configDocument_decodes cluster⟩⟩

/-- A cluster with this log level and otherwise the defaults. -/
private def atLevel (level : String) : StreamlineCluster where
  metadata := { name := some "events" }
  spec := { logLevel := level }
  status := none

theorem configDecodes_iff_debug :
    ∃ document, Toml.parse (renderConfig (atLevel "debug")) = some document ∧
      ConfigDecodes (atLevel "debug") document :=
  (configDecodes_iff (atLevel "debug") (by decide)).mpr (by decide)

/-- A level with a quote in it ends the string early, and what follows becomes a key. -/
theorem log_level_escapes : ¬ ∀ cluster : StreamlineCluster,
    isDns1123Subdomain cluster.nameAny = true → cluster.spec.validate = .ok () →
    ∃ document, Toml.parse (renderConfig cluster) = some document ∧
      ConfigDecodes cluster document := by
  intro h
  obtain ⟨document, hparse, decodes⟩ := h (atLevel "info\"\ndata_root = \"/tmp")
    (by decide) (by decide)
  have hplain := plain_of_decodes (by decide) hparse decodes
  exact absurd hplain (by decide)

end ClusterController

end StreamlineOperator.Controllers
