import Udtcp.Threads.Senders
import Udtcp.Transfer.Passes

/-!
# Many senders, one receiver

Any number of threads send through the records of a connection (`send.c:33–103`) while its other end
polls (`server_poll.c:439–539`, `client_poll.c:272–361`).
-/

namespace Udtcp

open Interaction Routine

namespace Sending

variable {ι : Type}

/-- The sends on stream socket `fd` the kernel took, in the order it took them. -/
def entriesOn (fd : Fd) (log : List (SendEntry ι)) : List (SendEntry ι) :=
  (taken log).filter fun e ↦ e.request.udp = false ∧ e.request.infos.tcpSocket = fd

/-- Their messages. -/
def messagesOn (fd : Fd) (log : List (SendEntry ι)) : List (List UInt8) :=
  (entriesOn fd log).map (·.request.data.val)

variable [DecidableEq ι] {requests : ι → List Request} {p : Sending ι}

private theorem Unmixed.streamOn_eq_frames (h : p.Unmixed requests) (fd : Fd) :
    streamOn fd p.log = Bytes.frames (messagesOn fd p.log) := by
  rw [h.stream fd, messagesOn, entriesOn, Bytes.frames, List.flatMap_map]

/-- What was taken of a thread are some of its messages, in its order. -/
theorem Unmixed.takenFrom_sublist (h : p.Unmixed requests) (i : ι) :
    (takenFrom i p.log).Sublist (requests i) := by
  obtain ⟨rest, hrest, htaken⟩ := h.once i
  have hsucceeded : (p.senders i).succeeded.Sublist ((p.senders i).results.map Prod.fst) :=
    List.filter_sublist.map _
  rw [htaken, ← h.requests i, Sender.requests]
  exact (hsucceeded.append hrest).trans (List.sublist_append_left _ _)

/-- Among the messages on one socket those of each thread are in its order. -/
theorem Unmixed.entriesOn_sublist (h : p.Unmixed requests) (fd : Fd) (i : ι) :
    (((entriesOn fd p.log).filter (·.sender = i)).map (·.request)).Sublist (requests i) := by
  refine .trans (List.Sublist.map _ ?_) (h.takenFrom_sublist i)
  rw [entriesOn, List.filter_comm]
  exact List.filter_sublist

/-- What one end of a connection hands over are the first messages the kernel took at the other
end, whole and once each, and those of each thread in its order; what is left to read are the frames
of the others. -/
structure Heard (requests : ι → List Request) (fd : Fd) (p : Sending ι) (k : Incoming) : Prop where
  orderly : k.Orderly (messagesOn fd p.log)
  own : ∀ i, (((entriesOn fd p.log).filter (·.sender = i)).map (·.request)).Sublist (requests i)

end Sending

private theorem Sending.framable_messagesOn {ι : Type} (fd : Fd) (log : List (SendEntry ι)) :
    ∀ m ∈ messagesOn fd log, Bytes.Framable m := by
  intro m hm
  obtain ⟨e, -, rfl⟩ := List.mem_map.mp hm
  exact e.request.data.property

end Udtcp
