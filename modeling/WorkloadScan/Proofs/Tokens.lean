import Mathlib.Data.List.InsertIdx
import WorkloadScan.Flight
import WorkloadScan.Integration.Reconciler

/-! What is left when tokens are taken out. Nothing but clients holds them, and what becomes of the
rest is the same without them, if it makes no difference to the transport which token a client
has. -/
namespace WorkloadScan

namespace Table
variable {κ α β : Type}

def map (f : α → β) (t : Table κ α) : Table κ β :=
  ⟨t.entries.map fun e => (e.1,f e.2), by simpa [Function.comp_def] using t.nodup⟩

variable (f : α → β) (t : Table κ α)

@[simp] theorem values_map : (t.map f).values = t.values.map f := by
  simp [values, map, Function.comp_def]

@[simp] theorem size_map : (t.map f).size = t.size := List.length_map ..

variable [DecidableEq κ] (k : κ) (v : α)

theorem find_map (entries : List (κ × α)) :
    find k (entries.map fun e => (e.1,f e.2)) = (find k entries).map f := by
  induction entries with
  | nil => rfl
  | cons e rest ih => by_cases he : e.1 = k <;> simp [find, he, ih]

@[simp] theorem get?_map : (t.map f).get? k = (t.get? k).map f := find_map f k t.entries

@[simp] theorem contains_map : (t.map f).contains k = t.contains k := by
  simp [contains]

theorem put_map (entries : List (κ × α)) :
    put k (f v) (entries.map fun e => (e.1,f e.2)) =
      (put k v entries).map fun e => (e.1,f e.2) := by
  induction entries with
  | nil => rfl
  | cons e rest ih => by_cases he : e.1 = k <;> simp [put, he, ih]

theorem insert_map : (t.map f).insert k (f v) = (t.insert k v).map f := by
  simp [insert, map, put_map]

theorem erase_map : (t.map f).erase k = (t.erase k).map f := by
  simp [erase, map, drop, List.filter_map, Function.comp_def]

end Table

def Client.bare (c : Client) : Client := { c with token := "" }

def Target.Spec.bare (s : Spec) : Spec := { s with token := "" }

def Target.bare (t : Target) : Target := { t with client := t.client.bare }

def Scan.bare (s : Scan) : Scan := { s with target := s.target.bare }

/-- Clients can be made and scans go the same way whatever the tokens are. -/
structure Transport.IsTokenBlind (t : Transport) : Prop where
  fault : ∀ c c' : Client, c.bare = c'.bare → t.fault c = t.fault c'
  respond : ∀ now, ∀ s s' : Scan, s.bare = s'.bare → t.respond now s = t.respond now s'

theorem Transport.fault_bare {t : Transport} (h : t.IsTokenBlind) (c : Client) :
    t.fault c.bare = t.fault c := h.fault _ _ rfl

theorem Transport.respond_bare {t : Transport} (h : t.IsTokenBlind) (now : Instant) (s : Scan) :
    t.respond now s.bare = t.respond now s := h.respond now _ _ rfl

/-! ### Texts -/

theorem Target.Spec.shownToken_of_ne {s : Spec} (h : s.token ≠ "") :
    s.shownToken = "<redacted>" := by
  have hsome : s.token.isEmpty = false := by simpa using h
  simp [shownToken, redacted, hsome]

theorem Target.Spec.debug_of_bare {s s' : Spec} (h : s.bare = s'.bare) (hs : s.token ≠ "")
    (hs' : s'.token ≠ "") : s.debug = s'.debug ∧ s.debugLines = s'.debugLines := by
  obtain ⟨hendpoint, hid, hincluded, hexcluded⟩ : s.endpoint = s'.endpoint ∧
      s.integrationId = s'.integrationId ∧ s.included = s'.included ∧ s.excluded = s'.excluded := by
    simpa [bare] using h
  unfold debug debugLines
  rw [shownToken_of_ne hs, shownToken_of_ne hs', hendpoint, hid, hincluded, hexcluded]
  exact ⟨rfl, rfl⟩

/-! ### Scans -/

namespace Scan

@[simp] theorem isAdmitted_bare (s : Scan) : s.bare.isAdmitted = s.isAdmitted := rfl

theorem pairs_bare (targets : List Target) (batch : Batch) :
    pairs (targets.map Target.bare) batch = (pairs targets batch).map bare := by
  simp [pairs, List.flatMap_map, List.map_flatMap, Function.comp_def, bare]

@[simp] theorem admitted_bare (targets : List Target) (batch : Batch) :
    admitted (targets.map Target.bare) batch = (admitted targets batch).map bare := by
  simp [admitted, pairs_bare, List.filter_map, Function.comp_def]

@[simp] theorem refused_bare (targets : List Target) (batch : Batch) :
    refused (targets.map Target.bare) batch = (refused targets batch).map bare := by
  simp [refused, pairs_bare, List.filter_map, Function.comp_def]

end Scan

namespace Flight

def Running.bare (r : Running) : Running := { r with scan := r.scan.bare }

def bare (f : Flight) : Flight :=
  { f with waiting := f.waiting.map Scan.bare, running := f.running.map Running.bare }

theorem start_bare (targets : List Target) (batch : Batch) :
    start (targets.map Target.bare) batch = (start targets batch).bare := by
  simp [start, bare]

theorem begin?_bare {t : Transport} (h : t.IsTokenBlind) (limit : Nat) (now : Instant)
    (f : Flight) :
    f.bare.begin? limit (t.respond now) now =
      (f.begin? limit (t.respond now) now).map (Prod.map Scan.bare bare) := by
  have hroom : f.bare.hasRoom limit = f.hasRoom limit := by simp [hasRoom, bare]
  cases hwaiting : f.waiting with
  | nil => simp [begin?, bare, hwaiting]
  | cons scan rest =>
    have hbare : f.bare.waiting = scan.bare :: rest.map Scan.bare := by simp [bare, hwaiting]
    simp only [begin?, hwaiting, hbare, hroom, Transport.respond_bare h]
    split <;> simp [bare, Running.bare]

theorem finish?_bare (now : Instant) (place : Nat) (f : Flight) :
    f.bare.finish? now place = (f.finish? now place).map (Prod.map Running.bare bare) := by
  cases hfound : f.running[place]? with
  | none => simp [finish?, bare, hfound]
  | some r =>
    have hbare : f.bare.running[place]? = some r.bare := by simp [bare, hfound]
    simp only [finish?, hfound, hbare, Running.bare]
    split
    · cases herror : r.error <;> simp [count, bare, List.eraseIdx_map, Running.bare, herror]
    · rfl

@[simp] theorem isOver_bare (f : Flight) : f.bare.isOver = f.isOver := by
  simp [isOver, bare]

end Flight

/-! ### The registry -/

namespace Registry

def bare (r : Registry) : Registry := r.map Target.bare

def Request.bare : Request → Request
  | .add key spec => .add key spec.bare
  | .delete key => .delete key
  | .snapshot => .snapshot

def Reply.bare : Reply → Reply
  | .done => .done
  | .targets ts => .targets (ts.map Target.bare)

variable {t : Transport} (r : Registry) (q : Request)

theorem fault_bare (h : t.IsTokenBlind) (spec : Target.Spec) :
    t.fault spec.bare.client = t.fault spec.client := Transport.fault_bare h spec.client

theorem apply_bare (h : t.IsTokenBlind) : r.bare.apply t q.bare = (r.apply t q).bare := by
  cases q with
  | add key spec =>
    simp only [apply, Request.bare, fault_bare h]
    cases t.fault spec.client with
    | none => exact Table.insert_map Target.bare r key (.ofSpec key spec)
    | some error => exact Table.erase_map Target.bare r key
  | delete key => exact Table.erase_map Target.bare r key
  | snapshot => rfl

theorem reply_bare : r.bare.reply q.bare = (r.reply q).bare := by
  cases q with
  | add | delete => rfl
  | snapshot => simp [reply, Request.bare, Reply.bare, bare]

theorem emptyReply_bare : emptyReply q.bare = (emptyReply q).bare := by
  cases q <;> rfl

theorem notices_bare (h : t.IsTokenBlind) : notices t r.bare q.bare = notices t r q := by
  cases q with
  | add key spec =>
    simp only [notices, Request.bare, registrationNotice, fault_bare h, bare, Table.contains_map]
    rfl
  | delete key => simp [notices, Request.bare, bare]
  | snapshot => rfl

theorem droppedNotices_bare : droppedNotices q.bare = droppedNotices q := by
  cases q <;> rfl

theorem measure_bare (h : t.IsTokenBlind) (m : Metrics) :
    measure t r.bare q.bare m = measure t r q m := by
  have hsize : (r.bare.apply t q.bare).size = (r.apply t q).size := by
    rw [apply_bare r q h, bare, Table.size_map]
  cases q with
  | add key spec =>
    simp only [Request.bare] at hsize
    simp only [measure, Request.bare, fault_bare h, hsize]
  | delete key =>
    simp only [Request.bare] at hsize
    simp only [measure, Request.bare, hsize]
    simp only [bare, Table.contains_map]
  | snapshot => rfl

theorem built_bare (h : t.IsTokenBlind) :
    built t q.bare = (built t q).map fun entry => (entry.1.bare,entry.2) := by
  cases q with
  | add key spec =>
    simp only [built, Request.bare, fault_bare h]
    rfl
  | delete | snapshot => rfl

end Registry

/-! ### The reconciler -/

namespace Reconciler

def TokenReader.bare (read : TokenReader) : TokenReader := fun ns ref =>
  (read ns ref).map fun _ => ""

def Move.bare : Move → Move
  | .note notice => .note notice
  | .request q => .request q.bare

theorem token_bare (read : TokenReader) (i : Integration) :
    token read.bare i = (token read i).map fun _ => "" := by
  unfold token
  split <;> rfl

theorem apply_bare (read : TokenReader) (i : Integration) (r : Reconciler) :
    apply read.bare i r = ((apply read i r).1,(apply read i r).2.map Move.bare) := by
  simp only [apply, token_bare]
  split
  · cases token read i <;> rfl
  · rfl

theorem handle_bare (read : TokenReader) (r : Reconciler) (event : Cluster.Event Integration) :
    r.handle read.bare event =
      ((r.handle read event).1,(r.handle read event).2.map Move.bare) := by
  cases event with
  | applied i | listed i => exact apply_bare ..
  | deleted | listing => rfl
  | listComplete =>
    simp only [handle, completeList, List.map_flatMap]
    rfl

end Reconciler
end WorkloadScan
