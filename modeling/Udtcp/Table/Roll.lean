import Udtcp.Posix.Observe

/-!
# The roll of clients

Where each client of a server came from, what record it sent and how many others were there when
it came: what the sightings of a server say of its clients beyond their descriptors.
-/

namespace Udtcp

/-- A client with a completed handshake: its descriptor, its number in the order of handshakes, the
address it connected from, the record it sent, and how many clients there were before it. -/
structure Guest where
  fd : Fd
  number : Nat
  addr : SockaddrIn
  record : UdtcpInfos
  seat : Nat

namespace Guest

/-- The address a client gave, at the host it connected from. -/
def hosted (g : Guest) (addr : SockaddrIn) : SockaddrIn := { addr with sAddr := g.addr.sAddr }

/-- Where the datagrams of a client come from. -/
def udpClientAddr (g : Guest) : SockaddrIn := g.hosted g.record.udpClientAddr

end Guest

/-- A descriptor whose handshake is not over, with its peer's address, the clients that are there,
oldest first, and the number of completed handshakes. -/
structure Roll where
  pending : Option (Fd × SockaddrIn)
  present : List Guest
  completed : Nat

namespace Roll

/-- Before the first call. -/
def start : Roll := ⟨none, [], 0⟩

/-- The client whose handshake a sighting completes. -/
def arrival (ρ : Roll) : Sighting → Option Guest
  | .record fd bs =>
    ρ.pending.bind fun p ↦
      if p.1 = fd ∧ bs.length = UdtcpInfos.sizeof then
        some ⟨fd, ρ.completed + 1, p.2, .decode bs, ρ.present.length⟩
      else none
  | _ => none

/-- The roll after one more sighting. -/
def see (ρ : Roll) (x : Sighting) : Roll :=
  match ρ.arrival x, x with
  | some g, _ => ⟨none, ρ.present ++ [g], ρ.completed + 1⟩
  | none, .accepted fd addr => { ρ with pending := some (fd, addr) }
  | none, .shut fd => { ρ with present := ρ.present.filter (·.fd ≠ fd) }
  | none, .closed _ => { ρ with pending := none }
  | none, _ => ρ

/-- The roll after some more sightings. -/
def after (ρ : Roll) (xs : List Sighting) : Roll := xs.foldl see ρ

/-- Nothing is seen, and the roll is as it was. -/
@[simp] theorem after_nil (ρ : Roll) : ρ.after [] = ρ := rfl

/-- The first sighting and then the others. -/
@[simp] theorem after_cons (ρ : Roll) (x : Sighting) (xs : List Sighting) :
    ρ.after (x :: xs) = (ρ.see x).after xs := rfl

/-- Sightings in two parts. -/
@[simp] theorem after_append (ρ : Roll) (xs ys : List Sighting) :
    ρ.after (xs ++ ys) = (ρ.after xs).after ys := List.foldl_append

private theorem see_of_arrival {ρ : Roll} {x : Sighting} {g : Guest} (h : ρ.arrival x = some g) :
    ρ.see x = ⟨none, ρ.present ++ [g], ρ.completed + 1⟩ := by
  unfold see
  rw [h]

/-- The record of nobody who is waited for changes nothing. -/
theorem see_of_none {ρ : Roll} {fd : Fd} {bs : List UInt8} (h : ρ.arrival (.record fd bs) = none) :
    ρ.see (.record fd bs) = ρ := by
  unfold see
  rw [h]

@[simp] private theorem see_opened (ρ : Roll) (fd : Fd) : ρ.see (.opened fd) = ρ := rfl

@[simp] private theorem see_named (ρ : Roll) (name : List UInt8) : ρ.see (.named name) = ρ := rfl

@[simp] private theorem see_connected (ρ : Roll) (slot : Nat) (infos : UdtcpInfos) :
    ρ.see (.connected slot infos) = ρ := rfl

@[simp] private theorem see_shut (ρ : Roll) (fd : Fd) :
    ρ.see (.shut fd) = { ρ with present := ρ.present.filter (·.fd ≠ fd) } := rfl

@[simp] private theorem see_closed (ρ : Roll) (fd : Fd) :
    ρ.see (.closed fd) = { ρ with pending := none } := rfl

@[simp] private theorem present_see_accepted (ρ : Roll) (fd : Fd) (addr : SockaddrIn) :
    (ρ.see (.accepted fd addr)).present = ρ.present := rfl

/-- A completed handshake right after its `accept`. -/
theorem arrival_accepted (ρ : Roll) (fd : Fd) (addr : SockaddrIn) {bs : List UInt8}
    (hbs : bs.length = UdtcpInfos.sizeof) :
    (ρ.see (.accepted fd addr)).arrival (.record fd bs) =
      some ⟨fd, ρ.completed + 1, addr, .decode bs, ρ.present.length⟩ := if_pos ⟨rfl, hbs⟩

/-- One client comes in with it. -/
theorem see_record (ρ : Roll) (fd : Fd) (addr : SockaddrIn) {bs : List UInt8}
    (hbs : bs.length = UdtcpInfos.sizeof) : (ρ.see (.accepted fd addr)).see (.record fd bs) =
      ⟨none, ρ.present ++ [⟨fd, ρ.completed + 1, addr, .decode bs, ρ.present.length⟩],
        ρ.completed + 1⟩ :=
  see_of_arrival (ρ.arrival_accepted fd addr hbs)

/-- Only a record brings a client in. -/
theorem arrival_of_ne (ρ : Roll) {x : Sighting} (h : ∀ fd bs, x ≠ .record fd bs) :
    ρ.arrival x = none := by
  cases x
  case record fd bs => exact absurd rfl (h fd bs)
  all_goals rfl

/-- A handshake whose record has the wrong length. -/
theorem arrival_eq_none (ρ : Roll) (fd : Fd) {bs : List UInt8}
    (hbs : bs.length ≠ UdtcpInfos.sizeof) : ρ.arrival (.record fd bs) = none := by
  cases hp : ρ.pending with
  | none => simp [arrival, hp]
  | some p => simp [arrival, hp, hbs]

end Roll

/-- The roll some sightings from the start on lead to. -/
def rollOf (xs : List Sighting) : Roll := Roll.start.after xs

/-- Every client that comes in with the sightings is as `P` says, which sees the clients there and
the new one. -/
def Roll.Welcomes (P : List Guest → Guest → Prop) : Roll → List Sighting → Prop
  | _, [] => True
  | ρ, x :: xs => (∀ g, ρ.arrival x = some g → P ρ.present g) ∧ Welcomes P (ρ.see x) xs

/-- The same for sightings from the start on. -/
def Welcomes (P : List Guest → Guest → Prop) (xs : List Sighting) : Prop := Roll.start.Welcomes P xs

/-- Clients whose `f` is taken are not let in. -/
def Fresh {α : Type} (f : Guest → α) (present : List Guest) (g : Guest) : Prop :=
  ∀ h ∈ present, f h ≠ f g

@[simp] private theorem Roll.welcomes_append {P : List Guest → Guest → Prop} {ρ : Roll}
    {xs ys : List Sighting} :
    ρ.Welcomes P (xs ++ ys) ↔ ρ.Welcomes P xs ∧ (ρ.after xs).Welcomes P ys := by
  induction xs generalizing ρ with
  | nil => simp [Roll.Welcomes]
  | cons x xs ih => simp only [List.cons_append, Roll.Welcomes, ih, and_assoc, after_cons]

private theorem pairwise_see {α : Type} {f : Guest → α} {ρ : Roll} {x : Sighting}
    (h : ρ.present.Pairwise fun g g' ↦ f g ≠ f g')
    (hx : ∀ g, ρ.arrival x = some g → Fresh f ρ.present g) :
    (ρ.see x).present.Pairwise fun g g' ↦ f g ≠ f g' := by
  cases ha : ρ.arrival x with
  | some g =>
    rw [Roll.see_of_arrival ha]
    refine List.pairwise_append.mpr ⟨h, List.pairwise_singleton _ _, fun g' hg' g'' hg'' ↦ ?_⟩
    rw [List.mem_singleton.mp hg'']
    exact hx g ha g' hg'
  | none =>
    unfold Roll.see
    rw [ha]
    cases x
    case shut fd => exact h.filter _
    all_goals exact h

/-- **Fresh arrivals keep apart.** When every client that comes in has an `f` no other client has,
the clients that are there never share one. -/
theorem Roll.pairwise_after {α : Type} {f : Guest → α} {ρ : Roll} {xs : List Sighting}
    (hρ : ρ.present.Pairwise fun g g' ↦ f g ≠ f g') (h : ρ.Welcomes (Fresh f) xs) :
    (ρ.after xs).present.Pairwise fun g g' ↦ f g ≠ f g' := by
  induction xs generalizing ρ with
  | nil => exact hρ
  | cons x xs ih => exact ih (pairwise_see hρ h.1) h.2

/-- Newcomers that differ from all that are present make the guests differ in pairs. -/
theorem pairwise_of_welcomes {α : Type} {f : Guest → α} {xs : List Sighting}
    (h : Welcomes (Fresh f) xs) : (rollOf xs).present.Pairwise fun g g' ↦ f g ≠ f g' :=
  Roll.pairwise_after List.Pairwise.nil h

end Udtcp
