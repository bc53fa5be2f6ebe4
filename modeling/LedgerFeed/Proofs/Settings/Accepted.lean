import Mathlib
import LedgerFeed.Proofs.Except
import LedgerFeed.Settings.Basic

namespace LedgerFeed

variable {α : Type}

/-- A field that no source names has its default, any other has what its reader made of the value. -/
def FieldRead (sources : Sources) (name : String) (read : Value → Except Issue α) (default found : α) :
    Prop :=
  (sources.find? name = none ∧ found = default) ∨
    ∃ value, sources.find? name = some value ∧ read value = .ok found

def fieldOutcome (sources : Sources) (name : String) (read : Value → Except Issue α) (default : α) :
    α × Issues :=
  readField sources name read default []

theorem readField_eq (sources : Sources) (name : String) (read : Value → Except Issue α)
    (default : α) (issues : Issues) :
    readField sources name read default issues =
      ((fieldOutcome sources name read default).1,
        issues ++ (fieldOutcome sources name read default).2) := by
  unfold fieldOutcome readField
  split
  · simp
  · split <;> simp

theorem fieldRead_of_outcome {sources : Sources} {name : String} {read : Value → Except Issue α}
    {default : α} (h : (fieldOutcome sources name read default).2 = []) :
    FieldRead sources name read default (fieldOutcome sources name read default).1 := by
  unfold fieldOutcome readField at h ⊢
  unfold FieldRead
  split
  · rename_i absent
    exact .inl ⟨absent, rfl⟩
  · rename_i value present
    simp only [present] at h
    split
    · rename_i found hread
      exact .inr ⟨value, present, hread⟩
    · rename_i issue hread
      simp [hread] at h

structure Accepted (sources : Sources) (settings : Settings) : Prop where
  backend : FieldRead sources "bus_backend" readBackend .redis settings.backend
  redisHost : FieldRead sources "redis_host" readHost "localhost" settings.redisHost
  redisPort : FieldRead sources "redis_port" readPort 6379 settings.redisPort
  redisDb : FieldRead sources "redis_db" (fun value => readInteger value >>= atLeast 0) 0
    settings.redisDb
  redisPassword : FieldRead sources "redis_password" readPassword none settings.redisPassword
  publishTimeout : FieldRead sources "publish_timeout_seconds" (readSeconds "0.05" "60")
    (seconds "2") settings.publishTimeout
  reconnectDelay : FieldRead sources "relay_reconnect_delay" (readSeconds "0.01" "300")
    (seconds "2") settings.reconnectDelay
  maxReconnectDelay : FieldRead sources "relay_max_reconnect_delay" (readSeconds "0.01" "3600")
    (seconds "60") settings.maxReconnectDelay
  websocketHost : FieldRead sources "websocket_host" readText "0.0.0.0" settings.websocketHost
  websocketPort : FieldRead sources "websocket_port" readPort 8000 settings.websocketPort
  sendTimeout : FieldRead sources "websocket_send_timeout" (readSeconds "0.1" "300")
    (seconds "30") settings.sendTimeout
  logLevel : FieldRead sources "log_level" readLevel .info settings.logLevel
  logJson : FieldRead sources "log_json" readTruth true settings.logJson

theorem accepted_of_read {sources : Sources} {settings : Settings}
    (h : Settings.read sources = .ok settings) : Accepted sources settings := by
  unfold Settings.read at h
  split at h
  · rename_i found clean
    cases h
    simp only [readFields, bind, StateT.bind, pure, StateT.pure, readField_eq, List.nil_append]
      at clean
    obtain ⟨rfl, none⟩ := Prod.mk.inj clean
    simp only [List.append_eq_nil_iff] at none
    obtain ⟨⟨⟨⟨⟨⟨⟨⟨⟨⟨⟨⟨backend, host⟩, port⟩, db⟩, password⟩, publish⟩, delay⟩, longest⟩, socketHost⟩,
      socketPort⟩, send⟩, level⟩, json⟩ := none
    exact ⟨fieldRead_of_outcome backend, fieldRead_of_outcome host, fieldRead_of_outcome port,
      fieldRead_of_outcome db, fieldRead_of_outcome password, fieldRead_of_outcome publish,
      fieldRead_of_outcome delay, fieldRead_of_outcome longest, fieldRead_of_outcome socketHost,
      fieldRead_of_outcome socketPort, fieldRead_of_outcome send, fieldRead_of_outcome level,
      fieldRead_of_outcome json⟩
  · cases h

theorem FieldRead.holds {sources : Sources} {name : String} {read : Value → Except Issue α}
    {default found : α} (h : FieldRead sources name read default found) {p : α → Prop}
    (initial : p default) (reads : ∀ value found, read value = .ok found → p found) : p found := by
  rcases h with ⟨-, rfl⟩ | ⟨value, -, hread⟩
  · exact initial
  · exact reads value found hread

theorem atLeast_eq_ok {least n found : Int} (h : atLeast least n = .ok found) :
    found = n ∧ least ≤ n := by
  unfold atLeast at h
  split at h <;> cases h
  exact ⟨rfl, by omega⟩

theorem atMost_eq_ok {most n found : Int} (h : atMost most n = .ok found) :
    found = n ∧ n ≤ most := by
  unfold atMost at h
  split at h <;> cases h
  exact ⟨rfl, by omega⟩

theorem readPort_bounds {value : Value} {port : Int} (h : readPort value = .ok port) :
    1 ≤ port ∧ port ≤ 65535 := by
  obtain ⟨n, -, checks⟩ := bind_eq_ok.mp h
  obtain ⟨m, lower, upper⟩ := bind_eq_ok.mp checks
  obtain ⟨rfl, least⟩ := atLeast_eq_ok lower
  obtain ⟨rfl, most⟩ := atMost_eq_ok upper
  exact ⟨least, most⟩

namespace Accepted

variable {sources : Sources} {settings : Settings}

theorem port_bounds (h : Accepted sources settings) :
    1 ≤ settings.redisPort ∧ settings.redisPort ≤ 65535 :=
  h.redisPort.holds (by decide) fun _ _ => readPort_bounds

theorem db_nonneg (h : Accepted sources settings) : 0 ≤ settings.redisDb := by
  refine h.redisDb.holds (by decide) fun value db hread => ?_
  obtain ⟨n, -, hn⟩ := bind_eq_ok.mp hread
  obtain ⟨rfl, least⟩ := atLeast_eq_ok hn
  exact least

end Accepted

end LedgerFeed
