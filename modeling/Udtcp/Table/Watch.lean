import Udtcp.Posix.Observe

/-!
# Live connections

What the table of a server is for, said without the table: an observer who sees the calls of
the server knows which connections are live. A connection comes to life with the record that
completes its handshake and ends with the `shutdown` by which the server disconnects it.
-/

namespace Udtcp

open Interaction

/-- A connection with a completed handshake: its descriptor, its number in the order of completed
handshakes, and the slot and record the connect callback was given for it, if it was called. -/
structure Connection where
  fd : Fd
  number : Nat
  handle : Option (Nat × UdtcpInfos)

/-- What the observer knows: the sockets the server opened itself, a descriptor whose handshake is
not over, the live connections, oldest first, and the number of completed handshakes. -/
structure Watch where
  own : List Fd
  pending : Option Fd
  live : List Connection
  completed : Nat

namespace Watch

/-- Before the first call. -/
def start : Watch := ⟨[], none, [], 0⟩

/-- A handshake is completed. -/
def complete (w : Watch) (fd : Fd) : Watch :=
  { w with
    pending := none
    live := w.live ++ [⟨fd, w.completed + 1, none⟩]
    completed := w.completed + 1 }

/-- The connections on a descriptor are shut down. -/
def drop (w : Watch) (fd : Fd) : Watch := { w with live := w.live.filter (·.fd ≠ fd) }

/-- What `hand` makes of one connection. -/
def handed (w : Watch) (slot : Nat) (infos : UdtcpInfos) (c : Connection) : Connection :=
  if c.number = w.completed then { c with handle := some (slot, infos) } else c

/-- The youngest connection is handed to the user. -/
def hand (w : Watch) (slot : Nat) (infos : UdtcpInfos) : Watch :=
  { w with live := w.live.map (w.handed slot infos) }

/-- What the observer knows after one more sighting. -/
def see (w : Watch) : Sighting → Watch
  | .opened fd => { w with own := w.own ++ [fd] }
  | .accepted fd _ => { w with pending := some fd }
  | .record fd bs =>
    if w.pending = some fd ∧ bs.length = UdtcpInfos.sizeof then w.complete fd else w
  | .named _ => w
  | .shut fd => w.drop fd
  | .closed _ => { w with pending := none }
  | .connected slot infos => w.hand slot infos

/-- What is asked of the surroundings: `accept` gives a descriptor that is neither one of the
server's own sockets nor that of a live connection, and names fit into `hostname`. -/
def Allows (w : Watch) : Sighting → Prop
  | .accepted fd _ => fd ∉ w.own ∧ ∀ c ∈ w.live, c.fd ≠ fd
  | .named name => NameFits name
  | _ => True

/-- From the first state to the second along allowed sightings. -/
def Sees : Watch → List Sighting → Watch → Prop
  | w, [], w' => w' = w
  | w, x :: xs, w' => w.Allows x ∧ Sees (w.see x) xs w'

/-- Nothing is seen, and nothing changes. -/
@[simp] theorem sees_nil {w w' : Watch} : w.Sees [] w' ↔ w' = w := Iff.rfl

/-- The first sighting and then the others. -/
@[simp] theorem sees_cons {w w' : Watch} {x : Sighting} {xs : List Sighting} :
    w.Sees (x :: xs) w' ↔ w.Allows x ∧ (w.see x).Sees xs w' := Iff.rfl

/-- Handing over changes no number. -/
@[simp] theorem handed_number (w : Watch) (slot : Nat) (infos : UdtcpInfos) (c : Connection) :
    (w.handed slot infos c).number = c.number := by
  unfold handed
  split <;> rfl

/-- Handing over changes no descriptor. -/
@[simp] theorem handed_fd (w : Watch) (slot : Nat) (infos : UdtcpInfos) (c : Connection) :
    (w.handed slot infos c).fd = c.fd := by
  unfold handed
  split <;> rfl

/-- Handing over right after the handshake concerns the new connection alone. -/
theorem live_hand_complete {w : Watch} (h : ∀ c ∈ w.live, c.number ≤ w.completed) (fd : Fd)
    (slot : Nat) (infos : UdtcpInfos) : ((w.complete fd).hand slot infos).live =
      w.live ++ [⟨fd, w.completed + 1, some (slot, infos)⟩] := by
  have hold : w.live.map ((w.complete fd).handed slot infos) = w.live := by
    conv =>
      rhs
      rw [← List.map_id w.live]
    apply List.map_congr_left
    intro c hc
    have hle := h c hc
    exact if_neg (show c.number ≠ w.completed + 1 by omega)
  have hnew : (w.complete fd).handed slot infos ⟨fd, w.completed + 1, none⟩ =
      ⟨fd, w.completed + 1, some (slot, infos)⟩ := if_pos rfl
  change (w.live ++ [_]).map _ = _
  rw [List.map_append, hold, List.map_singleton, hnew]

end Watch

/-- The surroundings of a server, as far as its table depends on them. -/
def tableKernel : Kernel posix Watch := fun w c r w' ↦
  match sightingOf c r with
  | none => w' = w
  | some x => w.Allows x ∧ w' = w.see x

/-- The observer goes by what is seen of a trace. -/
theorem accepts_tableKernel {w w' : Watch} {tr : Trace posix} :
    tableKernel.Accepts w tr w' ↔ w.Sees (sightings tr) w' := by
  induction tr generalizing w with
  | nil => rfl
  | cons e tr ih =>
    have hstep (w₁ : Watch) : tableKernel w e.call e.reply w₁ ↔
        match sightingOf e.call e.reply with
        | none => w₁ = w
        | some x => w.Allows x ∧ w₁ = w.see x := Iff.rfl
    simp only [Kernel.accepts_cons, sightings_cons, hstep]
    cases sightingOf e.call e.reply with
    | none => simpa using ih
    | some x =>
      simp only [Option.toList_some, List.cons_append, List.nil_append, Watch.sees_cons]
      constructor
      · rintro ⟨w₁, ⟨hx, rfl⟩, htr⟩
        exact ⟨hx, ih.mp htr⟩
      · rintro ⟨hx, hxs⟩
        exact ⟨_, ⟨hx, rfl⟩, ih.mpr hxs⟩

end Udtcp
