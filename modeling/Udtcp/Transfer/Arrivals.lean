import Udtcp.Liveness.Supply
import Udtcp.Transfer.RoundTrip

/-!
# What has arrived

Surroundings in which messages have arrived in full on several connections, and nothing else will.
-/

namespace Udtcp

open Interaction Routine

/-- The bytes that lie ready on each socket, and the messages handed over, each with the socket of
the record it was handed over with. -/
structure Arrivals where
  pending : Fd → List UInt8
  handed : List (Fd × List UInt8)

namespace Arrivals

/-- The bytes of one socket are taken. -/
def take (k : Arrivals) (fd : Fd) (rest : List UInt8) : Arrivals :=
  { k with pending := Function.update k.pending fd rest }

/-- A message is handed over. -/
def hand (k : Arrivals) (fd : Fd) (data : List UInt8) : Arrivals :=
  { k with handed := k.handed ++ [(fd, data)] }

end Arrivals

/-- Surroundings in which everything sent has arrived. A reception takes as much as it asks for and
there is, a poll succeeds and reports every socket with something to read, there is memory, nobody
connects, no datagram comes and nobody clears `poll_loop`. -/
def arrivalsKernel : Kernel posix Arrivals
  | k, .sys (.recv fd target len), r, k' => ∃ rest,
      availableKernel fd (k.pending fd) (.sys (.recv fd target len)) r rest ∧ k' = k.take fd rest
  | k, .sys (.poll fds timeout), r, k' => k' = k ∧ ∃ revents : (SysCall.poll fds timeout).Result,
      r = .ok revents ∧ ∀ (i : Nat) (p : PollFd), fds[i]? = some p → k.pending p.fd ≠ [] →
        reventsAt revents i &&& POLLIN ≠ 0
  | k, .sys (.accept _), r, k' => (∃ e, r = .error e) ∧ k' = k
  | k, .sys (.recvfrom _ _ _ _), r, k' => (∃ e, r = .error e) ∧ k' = k
  | k, .sys (.newBuffer _), r, k' => (∃ block, r = .ok block) ∧ k' = k
  | k, .pollLoop, on, k' => on = true ∧ k' = k
  | k, .callback (.receiveTcp _ infos data), _, k' => k' = k.hand infos.tcpSocket data
  | k, _, _, k' => k' = k

/-! ### Arrivals on some sockets -/

/-- Nothing has arrived but on `sockets`. -/
def Arrivals.Within (sockets : Finset Fd) (k : Arrivals) : Prop :=
  ∀ fd, fd ∉ sockets → k.pending fd = []

/-- How many bytes have arrived on `sockets`. -/
def Arrivals.size (sockets : Finset Fd) (k : Arrivals) : Nat :=
  ∑ fd ∈ sockets, (k.pending fd).length

/-- These surroundings where arrivals are on `sockets` only. -/
def arrivalsKernelOn (sockets : Finset Fd) : Kernel posix {k : Arrivals // k.Within sockets} :=
  fun k c r k' ↦ arrivalsKernel k.val c r k'.val ∧ AnswerFits c r

section

variable {sockets : Finset Fd}

/-- Arrivals on some sockets are arrivals. -/
theorem accepts_arrivalsKernelOn {k k' : {k : Arrivals // k.Within sockets}} {tr : Trace posix}
    (ha : (arrivalsKernelOn sockets).Accepts k tr k') :
    arrivalsKernel.Accepts k.val tr k'.val := by
  induction tr generalizing k with
  | nil => exact congrArg Subtype.val ha
  | cons e tr ih =>
    obtain ⟨k₁, hk, ha⟩ := ha
    exact ⟨k₁.val, hk.1, ih ha⟩

private theorem availableKernel_drop {fd : Fd} {q q' : List UInt8} {target : Target} {len : Nat}
    {r : Except Errno (SysCall.recv fd target len).Result}
    (h : availableKernel fd q (.sys (.recv fd target len)) r q') :
    q' = q ∧ ¬ Consumes (.sys (.recv fd target len)) r ∨ q ≠ [] ∧ 0 < len ∧ q' = q.drop len := by
  cases r with
  | error e =>
    by_cases hlen : len = 0
    · have hq : q' = q := by simp_all [availableKernel, streamRecvOf]
      exact .inl ⟨hq, id⟩
    · have hq : q' = q := by
        by_cases hnone : q = [] <;> simp_all [availableKernel, streamRecvOf]
      exact .inl ⟨hq, id⟩
  | ok bs =>
    by_cases hlen : len = 0
    · have hq : q' = q ∧ bs.val = [] := by simp_all [availableKernel, streamRecvOf]
      exact .inl ⟨hq.1, fun hsome ↦ hsome hq.2⟩
    · have hq : q ≠ [] ∧ q' = q.drop len := by
        by_cases hnone : q = [] <;> simp_all [availableKernel, streamRecvOf]
      exact .inr ⟨hq.1, Nat.pos_of_ne_zero hlen, hq.2⟩

private theorem arrivals_drop {k k' : Arrivals} {c : Call} {r : c.Reply}
    (h : arrivalsKernel k c r k') :
    k'.pending = k.pending ∧ ¬ Consumes c r ∨
      ∃ fd n, k.pending fd ≠ [] ∧ 0 < n ∧
        k'.pending = Function.update k.pending fd ((k.pending fd).drop n) := by
  cases c with
  | sys c =>
    cases c with
    | recv fd target len =>
      obtain ⟨rest, hrecv, rfl⟩ := h
      rcases availableKernel_drop hrecv with ⟨rfl, hnot⟩ | ⟨hsome, hlen, rfl⟩
      · exact .inl ⟨Function.update_eq_self fd k.pending, hnot⟩
      · exact .inr ⟨fd, len, hsome, hlen, rfl⟩
    | accept fd =>
      obtain ⟨⟨e, rfl⟩, rfl⟩ := h
      exact .inl ⟨rfl, id⟩
    | recvfrom fd target len peek =>
      obtain ⟨⟨e, rfl⟩, rfl⟩ := h
      refine .inl ⟨rfl, ?_⟩
      cases peek <;> exact id
    | poll fds timeout =>
      obtain ⟨rfl, -⟩ := h
      exact .inl ⟨rfl, id⟩
    | newBuffer size =>
      obtain ⟨-, rfl⟩ := h
      exact .inl ⟨rfl, id⟩
    | _ =>
      obtain rfl : k' = k := h
      exact .inl ⟨rfl, id⟩
  | pollLoop =>
    obtain ⟨-, rfl⟩ := h
    exact .inl ⟨rfl, id⟩
  | callback cb =>
    cases cb <;> first
      | (obtain rfl : k' = k := h
         exact .inl ⟨rfl, id⟩)
      | (obtain rfl : k' = k.hand _ _ := h
         exact .inl ⟨rfl, id⟩)
  | _ =>
    obtain rfl : k' = k := h
    exact .inl ⟨rfl, id⟩

/-- What can arrive on these sockets is a supply. -/
theorem supplies_arrivalsKernelOn (sockets : Finset Fd) :
    Supplies (arrivalsKernelOn sockets) (fun k ↦ k.val.size sockets) where
  le k c r k' hk := by
    refine Finset.sum_le_sum fun other _ ↦ ?_
    rcases arrivals_drop hk.1 with ⟨hsame, -⟩ | ⟨fd, n, -, -, hdrop⟩
    · rw [hsame]
    · rw [hdrop]
      by_cases hfd : other = fd
      · rw [hfd, Function.update_self, List.length_drop]
        exact Nat.sub_le _ _
      · rw [Function.update_of_ne hfd]
  lt k c r k' hk htaken := by
    rcases arrivals_drop hk.1 with ⟨-, hnot⟩ | ⟨fd, n, hsome, hn, hdrop⟩
    · exact absurd htaken hnot
    · have hfd : fd ∈ sockets := by
        by_contra hout
        exact hsome (k.property fd hout)
      have hlen := List.length_pos_iff.mpr hsome
      refine Finset.sum_lt_sum (fun other _ ↦ ?_) ⟨fd, hfd, ?_⟩
      · rw [hdrop]
        by_cases hother : other = fd
        · rw [hother, Function.update_self, List.length_drop]
          exact Nat.sub_le _ _
        · rw [Function.update_of_ne hother]
      · rw [hdrop, Function.update_self, List.length_drop]
        omega
  name k key name k' hk := hk.2

/-- Every call can be answered so. -/
theorem answers_arrivalsKernelOn : (arrivalsKernelOn sockets).Answers := by
  intro k c hc
  cases c with
  | sys c =>
    cases c with
    | recv fd target len =>
      have htake : ((k.val.pending fd).take len).length ≤ len := List.length_take_le ..
      have hwithin (n : Nat) : (k.val.take fd ((k.val.pending fd).drop n)).Within sockets := by
        intro other hout
        show Function.update k.val.pending fd ((k.val.pending fd).drop n) other = []
        by_cases hfd : other = fd
        · rw [hfd, Function.update_self, k.property fd (hfd ▸ hout), List.drop_nil]
        · rw [Function.update_of_ne hfd, k.property other hout]
      by_cases hnone : k.val.pending fd = []
      · refine ⟨.error .ewouldblock, ⟨_, hwithin 0⟩, ⟨_, ?_, rfl⟩, trivial⟩
        by_cases hlen : len = 0 <;> simp [availableKernel, streamRecvOf, hnone, hlen]
      · refine ⟨.ok ⟨_, htake⟩, ⟨_, hwithin len⟩, ⟨_, ?_, rfl⟩, trivial⟩
        by_cases hlen : len = 0 <;> simp [availableKernel, streamRecvOf, hnone, hlen]
    | poll fds timeout =>
      let revents : (SysCall.poll fds timeout).Result := Vector.replicate fds.length POLLIN
      refine ⟨.ok revents, k, ⟨rfl, revents, rfl, fun i p hi _ ↦ ?_⟩, trivial⟩
      obtain ⟨hlt, -⟩ := List.getElem?_eq_some_iff.mp hi
      have hready : reventsAt revents i = POLLIN := by
        unfold reventsAt
        rw [Vector.getElem?_replicate, if_pos hlt]
        rfl
      rw [hready]
      decide
    | accept fd => exact ⟨.error (.other 0), k, ⟨⟨_, rfl⟩, rfl⟩, trivial⟩
    | recvfrom fd target len peek => exact ⟨.error (.other 0), k, ⟨⟨_, rfl⟩, rfl⟩, trivial⟩
    | newBuffer size => exact ⟨.ok (Block.fresh 0 size), k, ⟨⟨_, rfl⟩, rfl⟩, trivial⟩
    | _ => exact ⟨.error (.other 0), k, rfl, trivial⟩
  | gethostbyaddr key => exact ⟨none, k, rfl, trivial⟩
  | pollLoop => exact ⟨true, k, ⟨rfl, rfl⟩, trivial⟩
  | fault => exact hc.elim Empty.elim
  | callback cb =>
    cases cb with
    | receiveTcp slot infos data =>
      exact ⟨(), ⟨k.val.hand infos.tcpSocket data, k.property⟩, rfl, trivial⟩
    | _ => exact ⟨(), k, rfl, trivial⟩
  | _ =>
    obtain ⟨r⟩ := hc
    exact ⟨r, k, rfl, trivial⟩

end

end Udtcp
