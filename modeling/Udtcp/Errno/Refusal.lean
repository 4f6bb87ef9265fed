import Udtcp.Receive.Agreement

/-!
# Negative results without a failing call

`receive_tcp` and `receive_udp` of `server_poll.c:197–411` and `client_poll.c:34–243` return `-1`
where a call failed, which sets `errno`, and where they refuse what they were given, which leaves
it alone: a size of one to three bytes, a wait for the rest of a message that reports nothing, a
datagram of the wrong length. A server does so too behind a message whose size does not fit an
`int`.
-/

namespace Udtcp

open Interaction Routine

/-- Which of the two passes receives. -/
inductive Role where
  | server
  | client
  deriving DecidableEq, Repr

/-- What the TCP receiver of a role returns behind a message. -/
def Role.success : Role → Nat → Int
  | .server => cInt
  | .client => fun _ ↦ 1

/-- Replies after which a receiver returns `-1` though no call failed, where the poll loop looks at
that result: a server does not look at that of `receive_udp`. -/
def refuses : Role → (c : Call) → c.Reply → Prop
  | _, .sys (.recv _ .word _), .ok bs => bs.val.length ≠ 0 ∧ bs.val.length ≠ 4
  | .server, .sys (.recv _ (.buffer _ _ offset) len), .ok bs =>
    bs.val.length = len ∧ 2 ^ 31 ≤ offset + len
  | .client, .sys (.recvfrom _ .word _ _), .ok (bs, _) => bs.val.length ≠ 0 ∧ bs.val.length ≠ 4
  | .client, .sys (.recvfrom _ (.buffer _ _ _) len _), .ok (bs, _) =>
    cInt bs.val.length ≠ 0 ∧ cInt bs.val.length ≠ len
  | _, _, _ => False

/-- Something was read into the buffer. -/
def fills : (c : Call) → c.Reply → Prop
  | .sys (.recv _ (.buffer _ _ _) _), .ok _ => True
  | _, _ => False

/-- A wait that reports no input. -/
def idles : (c : Call) → c.Reply → Prop
  | .sys (.poll _ _), .ok revents => pollCount (.ok revents) = 0
  | _, _ => False

/-- The trace ends with a refusal. Behind a part of a message, that is also a wait for the rest
that reports nothing. -/
def Refused (role : Role) (tr : Trace posix) : Prop :=
  (∃ pre ev, tr = pre ++ [ev] ∧ refuses role ev.call ev.reply) ∨
    ∃ pre ev ev', tr = pre ++ [ev, ev'] ∧ fills ev.call ev.reply ∧ idles ev'.call ev'.reply

/-- Every refusal comes behind a call that failed. -/
def Explained (role : Role) (tr : Trace posix) : Prop :=
  ∀ p, p <+: tr → Refused role p → ∃ ev ∈ p, Failed ev

/-- No refusal ends in this part of a trace, whatever came before it. -/
def Clean (role : Role) (tr : Trace posix) : Prop :=
  ∀ pre p, p <+: tr → p ≠ [] → ¬ Refused role (pre ++ p)

section

variable {role : Role} {tr tr' : Trace posix}

private theorem refused_append_singleton {pre : Trace posix} {ev : Event posix} :
    Refused role (pre ++ [ev]) ↔ refuses role ev.call ev.reply ∨
      ∃ pre' ev', pre = pre' ++ [ev'] ∧ fills ev'.call ev'.reply ∧ idles ev.call ev.reply := by
  constructor
  · rintro (⟨pre', ev', heq, h⟩ | ⟨pre', ev', ev'', heq, h⟩)
    · obtain ⟨-, hev⟩ := List.append_inj' heq rfl
      cases hev
      exact .inl h
    · rw [show [ev', ev''] = [ev'] ++ [ev''] from rfl, ← List.append_assoc] at heq
      obtain ⟨hpre, hev⟩ := List.append_inj' heq rfl
      cases hev
      exact .inr ⟨pre', ev', hpre, h⟩
  · rintro (h | ⟨pre', ev', rfl, h⟩)
    · exact .inl ⟨pre, ev, rfl, h⟩
    · exact .inr ⟨pre', ev', ev, by simp, h⟩

private theorem not_refused_nil : ¬ Refused role [] := by
  rintro (⟨pre, ev, heq, -⟩ | ⟨pre, ev, ev', heq, -⟩)
  · simp at heq
  · simp at heq

/-- Behind a failure everything is explained. -/
theorem explained_of_failed (h : Explained role tr) (hfailed : ∃ ev ∈ tr, Failed ev) :
    Explained role (tr ++ tr') := by
  intro p hp hrefused
  rcases List.prefix_or_prefix_of_prefix hp (List.prefix_append tr tr') with hle | hle
  · exact h p hle hrefused
  · obtain ⟨ev, hev, hfail⟩ := hfailed
    exact ⟨ev, hle.subset hev, hfail⟩

/-- The first part of what is explained is explained. -/
theorem Explained.take (h : Explained role tr) (hp : tr' <+: tr) : Explained role tr' :=
  fun p hle ↦ h p (hle.trans hp)

/-- A clean part behind what is explained. -/
theorem Explained.append (h : Explained role tr) (hclean : Clean role tr') :
    Explained role (tr ++ tr') := by
  intro p hp hrefused
  rcases List.prefix_or_prefix_of_prefix hp (List.prefix_append tr tr') with hle | ⟨q, rfl⟩
  · exact h p hle hrefused
  · cases q with
    | nil => exact h _ (by simp) (by simpa using hrefused)
    | cons ev q =>
      refine absurd hrefused (hclean tr (ev :: q) ?_ (List.cons_ne_nil _ _))
      exact (List.prefix_append_right_inj tr).mp hp

/-- No events are clean. -/
theorem clean_nil : Clean role [] := fun _ _ hp hne ↦ (hne (List.prefix_nil.mp hp)).elim

/-- Two clean parts make a clean whole. -/
theorem Clean.append (h : Clean role tr) (h' : Clean role tr') : Clean role (tr ++ tr') := by
  intro pre p hp hne
  rcases List.prefix_or_prefix_of_prefix hp (List.prefix_append tr tr') with hle | ⟨q, rfl⟩
  · exact h pre p hle hne
  · rw [← List.append_assoc]
    cases q with
    | nil =>
      rw [List.append_nil] at hne ⊢
      exact h pre tr (List.prefix_refl tr) hne
    | cons ev q =>
      exact h' _ _ ((List.prefix_append_right_inj tr).mp hp) (List.cons_ne_nil _ _)

/-- A clean event in front of a clean part. -/
theorem Clean.cons {ev : Event posix} (h : Clean role [ev]) (h' : Clean role tr) :
    Clean role (ev :: tr) := h.append h'

/-- An event that neither refuses nor idles is clean. -/
theorem clean_singleton {ev : Event posix} (hrefuses : ¬ refuses role ev.call ev.reply)
    (hidles : ¬ idles ev.call ev.reply) : Clean role [ev] := by
  intro pre p hp hne hrefused
  obtain rfl : p = [ev] := by
    rcases List.prefix_cons_iff.mp hp with rfl | ⟨q, rfl, hq⟩
    · exact (hne rfl).elim
    · rw [List.prefix_nil.mp hq]
  rcases refused_append_singleton.mp hrefused with h | ⟨-, -, -, -, h⟩
  · exact hrefuses h
  · exact hidles h

/-- A part of a trace that begins with anything but an idle wait, and none of whose calls fills the
buffer or refuses, is clean. -/
theorem clean_of_forall_mem
    (h : ∀ ev ∈ tr, ¬ refuses role ev.call ev.reply ∧ ¬ fills ev.call ev.reply)
    (hhead : ∀ ev ∈ tr.head?, ¬ idles ev.call ev.reply) : Clean role tr := by
  intro pre p hp hne hrefused
  obtain ⟨q, ev, rfl⟩ := (List.eq_nil_or_concat' p).resolve_left hne
  have hmem (ev' : Event posix) (h' : ev' ∈ q ++ [ev]) : ev' ∈ tr := hp.subset h'
  rw [← List.append_assoc] at hrefused
  rcases refused_append_singleton.mp hrefused with hr | ⟨pre', ev', heq, hfills, hidles⟩
  · exact (h ev (hmem ev (by simp))).1 hr
  · rcases List.eq_nil_or_concat' q with rfl | ⟨q', ev'', rfl⟩
    · obtain ⟨rest, rfl⟩ := hp
      exact hhead ev rfl hidles
    · rw [← List.append_assoc] at heq
      obtain ⟨-, hev⟩ := List.append_inj' heq rfl
      cases hev
      exact (h ev' (hmem ev' (by simp))).2 hfills

variable (role) in
/-- The poll a pass starts with is not refused. -/
theorem explained_poll {fds : List PollFd} {timeout : Int}
    (reply : Except Errno (SysCall.poll fds timeout).Result) :
    Explained role [⟨.sys (.poll fds timeout), reply⟩] := by
  intro p hp hrefused
  rcases List.prefix_cons_iff.mp hp with rfl | ⟨q, rfl, hq⟩
  · exact (not_refused_nil hrefused).elim
  · rw [List.prefix_nil.mp hq] at hrefused
    have hsingle : Refused role ([] ++ [⟨.sys (.poll fds timeout), reply⟩]) := hrefused
    rcases refused_append_singleton.mp hsingle with h | ⟨pre, ev, heq, -⟩
    · cases reply <;> cases role <;> exact h.elim
    · simp at heq

end

/-! ### What a receiver comes to -/

/-- How the result of a receiver goes with its calls. -/
inductive Outcome (role : Role) (n : Int) (tr : Trace posix) : Prop
  | taken (hn : 0 ≤ n) (hclean : Clean role tr)
  | failed (hn : n < 0) (hclean : Clean role tr) (hfailed : ∃ ev ∈ tr, Failed ev)
  | refused (hn : n < 0) (hnone : ∀ ev ∈ tr, ¬ Failed ev) (p : Trace posix) (hp : p <+: tr)
      (hrefused : ∀ pre, Refused role (pre ++ p))

section

variable {role : Role} {tr tr' : Trace posix} {n : Int}

/-- A clean part in front of a reception. -/
theorem Outcome.append_left (h : Outcome role n tr) (hclean : Clean role tr')
    (hnone : ∀ ev ∈ tr', ¬ Failed ev) : Outcome role n (tr' ++ tr) := by
  cases h with
  | taken hn h => exact .taken hn (hclean.append h)
  | failed hn h hfailed =>
    obtain ⟨ev, hev, hfail⟩ := hfailed
    exact .failed hn (hclean.append h) ⟨ev, List.mem_append_right _ hev, hfail⟩
  | refused hn hnone' p hp hrefused =>
    refine .refused hn (List.forall_mem_append.mpr ⟨hnone, hnone'⟩) (tr' ++ p)
      ((List.prefix_append_right_inj tr').mpr hp) fun pre ↦ ?_
    rw [← List.append_assoc]
    exact hrefused _

/-- A clean event in front of a reception. -/
theorem Outcome.cons {ev : Event posix} (h : Outcome role n tr) (hclean : Clean role [ev])
    (hok : ¬ Failed ev) : Outcome role n (ev :: tr) :=
  h.append_left hclean (List.forall_mem_singleton.mpr hok)

/-- A call that fails is no refusal. -/
theorem clean_error (c : SysCall) (e : Errno) : Clean role [⟨.sys c, .error e⟩] := by
  apply clean_singleton
  · cases c
    case recv fd target len => cases role <;> cases target <;> exact id
    case recvfrom fd target len peek => cases role <;> cases target <;> exact id
    all_goals cases role <;> exact id
  · cases c <;> exact id

/-- A call that fails and is the last. -/
theorem outcome_error (c : SysCall) (e : Errno) : Outcome role (-1) [⟨.sys c, .error e⟩] :=
  .failed (by decide) (clean_error c e) ⟨_, List.mem_singleton_self _, rfl⟩

private theorem refuses_recv_target_iff {fd : Fd} {b : ReceiveBuffer} {offset len : Nat}
    {bs : {bs : List UInt8 // bs.length ≤ len}} :
    refuses role (.sys (.recv fd (b.target offset) len)) (.ok bs) ↔
      role = .server ∧ bs.val.length = len ∧ 2 ^ 31 ≤ offset + len := by
  cases role with
  | server => exact ⟨fun h ↦ ⟨rfl, h⟩, fun h ↦ h.2⟩
  | client => exact ⟨False.elim, fun h ↦ nomatch h.1⟩

/-- A reception that is not the last of a large message. -/
theorem clean_recv {fd : Fd} {b : ReceiveBuffer} {offset len : Nat}
    {bs : {bs : List UInt8 // bs.length ≤ len}}
    (h : ¬ (role = .server ∧ bs.val.length = len ∧ 2 ^ 31 ≤ offset + len)) :
    Clean role [⟨.sys (.recv fd (b.target offset) len), .ok bs⟩] :=
  clean_singleton (fun hr ↦ h (refuses_recv_target_iff.mp hr)) id

-- How the reassembly loop ends, with the reception before it.
private inductive Stretch (role : Role) (dataSize : Nat) (r : Option Int) (tr : Trace posix) : Prop
  | complete (hr : r = none) (hnone : ∀ ev ∈ tr, ¬ Failed ev) (done : Trace posix) (fd : Fd)
      (b : ReceiveBuffer) (offset len : Nat) (bs : {bs : List UInt8 // bs.length ≤ len})
      (heq : tr = done ++ [⟨.sys (.recv fd (b.target offset) len), .ok bs⟩])
      (hdone : Clean role done) (hlen : bs.val.length = len) (hsize : offset + len = dataSize)
  | closed (hr : r = some 0) (hclean : Clean role tr)
  | failed (hr : r = some (-1)) (hclean : Clean role tr) (hfailed : ∃ ev ∈ tr, Failed ev)
  | idle (hr : r = some (-1)) (hnone : ∀ ev ∈ tr, ¬ Failed ev)
      (hrefused : ∀ pre, Refused role (pre ++ tr))

private theorem Stretch.append_left {dataSize : Nat} {r : Option Int}
    (h : Stretch role dataSize r tr) (hclean : Clean role tr')
    (hnone : ∀ ev ∈ tr', ¬ Failed ev) : Stretch role dataSize r (tr' ++ tr) := by
  cases h with
  | complete hr hnone' done fd b offset len bs heq hdone hlen hsize =>
    refine .complete hr (List.forall_mem_append.mpr ⟨hnone, hnone'⟩) (tr' ++ done) fd b
      offset len bs
      ?_ (hclean.append hdone) hlen hsize
    rw [heq, List.append_assoc]
  | closed hr h => exact .closed hr (hclean.append h)
  | failed hr h hfailed =>
    obtain ⟨ev, hev, hfail⟩ := hfailed
    exact .failed hr (hclean.append h) ⟨ev, List.mem_append_right _ hev, hfail⟩
  | idle hr hnone' hrefused =>
    refine .idle hr (List.forall_mem_append.mpr ⟨hnone, hnone'⟩) fun pre ↦ ?_
    rw [← List.append_assoc]
    exact hrefused _

private theorem stretch_error {dataSize : Nat} (c : SysCall) (e : Errno) :
    Stretch role dataSize (some (-1)) [⟨.sys c, .error e⟩] :=
  .failed rfl (clean_error c e) ⟨_, List.mem_singleton_self _, rfl⟩

private theorem not_failed_ok {c : SysCall} {a : c.Result} : ¬ Failed ⟨.sys c, .ok a⟩ := nofun

private theorem stretch_reassemble {fd : Fd} {dataSize rounds have₀ : Nat}
    {t t₁ t₂ : Thread ReceiveBuffer} {k : Int} {r : Option Int}
    (hrecv : Exec (recvBuffer fd have₀ (dataSize - have₀)) t tr k t₁) (hk : 0 < k)
    (hmissing : have₀ < dataSize) (hrounds : dataSize ≤ have₀ + k.toNat + rounds)
    (hloop : Exec (reassemble fd dataSize rounds (have₀ + k.toNat)) t₁ tr' r t₂) :
    Stretch role dataSize r (tr ++ tr') := by
  induction rounds generalizing have₀ t t₁ k tr tr' with
  | zero =>
    rcases exec_recvBuffer.mp hrecv with ⟨e, rfl, rfl, rfl⟩ | ⟨bs, rfl, rfl, rfl⟩
    · cases hk
    have hle := bs.property
    obtain ⟨rfl, rfl, rfl⟩ := exec_pure.mp hloop
    rw [List.append_nil]
    refine .complete rfl ?_ [] fd t.self have₀ _ bs rfl clean_nil (by omega) (by omega)
    exact List.forall_mem_singleton.mpr not_failed_ok
  | succ rounds ih =>
    rcases exec_recvBuffer.mp hrecv with ⟨e, rfl, rfl, rfl⟩ | ⟨bs, rfl, rfl, rfl⟩
    · cases hk
    have hle := bs.property
    rw [Int.toNat_natCast] at hloop hrounds
    by_cases hall : have₀ + bs.val.length = dataSize
    · rw [hall] at hloop
      obtain ⟨rfl, rfl, rfl⟩ := exec_reassemble_done.mp hloop
      rw [List.append_nil]
      refine .complete rfl ?_ [] fd t.self have₀ _ bs rfl clean_nil (by omega) (by omega)
      exact List.forall_mem_singleton.mpr not_failed_ok
    -- part of the message has come: the loop waits for more
    have hpart : Clean role [⟨.sys (.recv fd (t.self.target have₀) (dataSize - have₀)), .ok bs⟩] :=
      clean_recv fun h ↦ by omega
    obtain ⟨reply, rest, rfl, hrest⟩ := (exec_reassemble hall).mp hloop
    cases reply with
    | error e =>
      obtain ⟨-, rfl, rfl, rfl⟩ | ⟨hpos, -⟩ := hrest
      · exact (stretch_error _ e).append_left hpart (List.forall_mem_singleton.mpr not_failed_ok)
      · cases hpos
    | ok revents =>
      rcases hrest with ⟨hidle, rfl, rfl, rfl⟩ | ⟨hpos, tr₁, n, t₃, tr₂, rfl, hnext, hend⟩
      · refine .idle rfl ?_ fun pre ↦ .inr ⟨pre, _, _, rfl, trivial, ?_⟩
        · exact List.forall_mem_cons.mpr
            ⟨not_failed_ok, List.forall_mem_singleton.mpr not_failed_ok⟩
        · exact Int.le_antisymm hidle (Int.natCast_nonneg _)
      · have hready : Clean role [⟨.sys (.poll [⟨fd, POLLIN, 0⟩] (-1)), .ok revents⟩] := by
          apply clean_singleton
          · cases role <;> exact id
          · exact fun h : pollCount (.ok revents) = 0 ↦ by omega
        have hhead := hpart.append hready
        have hnone : ∀ ev ∈ ([⟨.sys (.recv fd (t.self.target have₀) (dataSize - have₀)), .ok bs⟩] ++
            [⟨.sys (.poll [⟨fd, POLLIN, 0⟩] (-1)), .ok revents⟩] : Trace posix), ¬ Failed ev :=
          List.forall_mem_cons.mpr ⟨not_failed_ok, List.forall_mem_singleton.mpr not_failed_ok⟩
        have hgoal : Stretch role dataSize r (tr₁ ++ tr₂) := by
          rcases hend with ⟨hneg, rfl, rfl, rfl⟩ | ⟨rfl, rfl, rfl, rfl⟩ | ⟨hmore, hmany⟩
          · rcases exec_recvBuffer.mp hnext with ⟨e, rfl, rfl, rfl⟩ | ⟨bs', rfl, rfl, rfl⟩
            · exact stretch_error _ e
            · omega
          · rcases exec_recvBuffer.mp hnext with ⟨e, rfl, hne, rfl⟩ | ⟨bs', rfl, hzero, rfl⟩
            · cases hne
            · refine .closed rfl ?_
              rw [List.append_nil]
              exact clean_recv fun h ↦ by omega
          · exact ih hnext hmore (by omega) (by omega) hmany
        exact hgoal.append_left hhead hnone

variable (role) in
private theorem clean_delivery {deliver : Option (List UInt8 → Callback)} {data : List UInt8}
    (h : delivery deliver data tr) : Clean role tr ∧ ∀ ev ∈ tr, ¬ Failed ev := by
  cases deliver with
  | none =>
    obtain rfl : tr = [] := h
    exact ⟨clean_nil, nofun⟩
  | some f =>
    obtain ⟨u, rfl⟩ := h
    refine ⟨clean_singleton ?_ id, List.forall_mem_singleton.mpr nofun⟩
    cases role <;> exact id

private theorem success_nonneg {size : Nat} (hsize : size < 2 ^ 32)
    (h : ¬ (role = .server ∧ 2 ^ 31 ≤ size)) : 0 ≤ role.success size := by
  cases role with
  | server =>
    have hsmall : size < 2 ^ 31 := Nat.lt_of_not_le fun hle ↦ h ⟨rfl, hle⟩
    change 0 ≤ cInt size
    rw [cInt_eq hsize, if_pos hsmall]
    exact Int.natCast_nonneg _
  | client => exact Int.one_nonneg

private theorem outcome_receivePayload {fd : Fd} {deliver : Option (List UInt8 → Callback)}
    {dataSize : Nat} {t t' : Thread ReceiveBuffer} (hsize : dataSize < 2 ^ 32)
    (h : Exec (receivePayload fd deliver role.success dataSize) t tr n t') :
    Outcome role n tr := by
  obtain ⟨tr₁, k, t₁, rest, rfl, hrecv, ⟨hk, rfl, rfl, rfl⟩ | ⟨hk, hmore⟩⟩ := exec_receivePayload h
  · rw [List.append_nil]
    rcases exec_recvBuffer.mp hrecv with ⟨e, rfl, rfl, rfl⟩ | ⟨bs, rfl, rfl, rfl⟩
    · exact outcome_error _ e
    · have hnonneg : ¬ (bs.val.length : Int) < 0 := by omega
      exact .taken (Int.le_of_eq (if_neg hnonneg).symm) (clean_recv fun h ↦ by omega)
  · obtain ⟨tr₂, r, t₂, tr₃, rfl, hloop, rfl, hend⟩ := hmore
    have hpos : 0 < dataSize := by
      rcases exec_recvBuffer.mp hrecv with ⟨e, rfl, rfl, rfl⟩ | ⟨bs, rfl, rfl, rfl⟩
      · cases hk
      · have hle := bs.property
        omega
    rw [← Nat.zero_add k.toNat] at hloop
    have hstretch : Stretch role dataSize r (tr₁ ++ tr₂) :=
      stretch_reassemble hrecv hk hpos (by omega) hloop
    rw [← List.append_assoc]
    generalize tr₁ ++ tr₂ = tr at hstretch
    cases hstretch with
    | complete hr hnone done fd b offset len bs heq hdone hlen hsum =>
      obtain ⟨h', -⟩ | ⟨-, rfl, hdeliver⟩ := hend
      · cases hr.symm.trans h'
      obtain ⟨hclean, hnone'⟩ := clean_delivery role hdeliver
      by_cases hlarge : role = .server ∧ 2 ^ 31 ≤ dataSize
      · refine .refused ?_ (List.forall_mem_append.mpr ⟨hnone, hnone'⟩) tr
          (List.prefix_append tr tr₃) fun pre ↦ ?_
        · rw [hlarge.1]
          change cInt dataSize < 0
          rw [cInt_eq hsize, if_neg (by omega)]
          omega
        · rw [heq, ← List.append_assoc]
          refine refused_append_singleton.mpr (.inl (refuses_recv_target_iff.mpr ?_))
          exact ⟨hlarge.1, hlen, by omega⟩
      · refine .taken (success_nonneg hsize hlarge) (Clean.append ?_ hclean)
        rw [heq]
        exact hdone.append (clean_recv fun h ↦ hlarge ⟨h.1, by omega⟩)
    | closed hr hclean =>
      obtain ⟨h', rfl⟩ | ⟨h', -⟩ := hend
      · obtain rfl := Option.some.inj (hr.symm.trans h')
        rw [List.append_nil]
        exact .taken (Int.le_refl 0) hclean
      · cases hr.symm.trans h'
    | failed hr hclean hfailed =>
      obtain ⟨h', rfl⟩ | ⟨h', -⟩ := hend
      · obtain rfl := Option.some.inj (hr.symm.trans h')
        rw [List.append_nil]
        exact .failed (by decide) hclean hfailed
      · cases hr.symm.trans h'
    | idle hr hnone hrefused =>
      obtain ⟨h', rfl⟩ | ⟨h', -⟩ := hend
      · obtain rfl := Option.some.inj (hr.symm.trans h')
        rw [List.append_nil]
        exact .refused (by decide) hnone tr (List.prefix_refl tr) hrefused
      · cases hr.symm.trans h'

variable (role) in
private theorem growBuffer_clean {need : Nat} {ok : Bool} {t t' : Thread ReceiveBuffer}
    (h : Exec (growBuffer need) t tr ok t') : Clean role tr ∧
      (ok = true → ∀ ev ∈ tr, ¬ Failed ev) ∧ (ok = false → ∃ ev ∈ tr, Failed ev) := by
  rcases exec_growBuffer.mp h with ⟨-, rfl, rfl, rfl⟩ | ⟨-, e, rfl, rfl, rfl⟩ |
    ⟨-, block, rfl, rfl, rfl⟩
  · exact ⟨clean_nil, fun _ ↦ nofun, nofun⟩
  · exact ⟨clean_error _ e, nofun, fun _ ↦ ⟨_, List.mem_singleton_self _, rfl⟩⟩
  · have hrelease (ev : Event posix) (hev : ev ∈ t.self.release) :
        (¬ refuses role ev.call ev.reply ∧ ¬ fills ev.call ev.reply) ∧
          ¬ idles ev.call ev.reply ∧ ¬ Failed ev := by
      obtain ⟨ptr, r, rfl⟩ := ReceiveBuffer.mem_release hev
      refine ⟨⟨?_, id⟩, id, nofun⟩
      cases role <;> exact id
    refine ⟨clean_of_forall_mem (List.forall_mem_cons.mpr ⟨⟨?_, id⟩, fun ev hev ↦
      (hrelease ev hev).1⟩) ?_, fun _ ↦ List.forall_mem_cons.mpr
        ⟨not_failed_ok, fun ev hev ↦ (hrelease ev hev).2.2⟩, nofun⟩
    · cases role <;> exact id
    · rintro ev ⟨⟩
      exact id

/-- **The TCP receiver** takes what comes, or a call fails, or it refuses. -/
theorem outcome_receiveTcpWith {fd : Fd} {deliver : Option (List UInt8 → Callback)}
    {t t' : Thread ReceiveBuffer} (h : Exec (receiveTcpWith fd deliver role.success) t tr n t') :
    Outcome role n tr := by
  obtain ⟨size, rest, rfl, ⟨e, rfl, rfl, rfl, rfl⟩ | ⟨bs, rfl, h₄, rfl, rfl, rfl⟩ |
    ⟨bs, rfl, h₄, hgrow, rfl⟩ | ⟨bs, tr₁, t₁, tr₂, rfl, h₄, rfl, hgrow, hend⟩⟩ :=
      exec_receiveTcpWith h
  · exact outcome_error _ e
  · by_cases h₀ : bs.val.length = 0
    · rw [if_pos h₀]
      refine .taken (Int.le_refl 0) (clean_singleton ?_ id)
      cases role <;> exact fun h : _ ∧ _ ↦ h.1 h₀
    · rw [if_neg h₀]
      refine .refused (by decide) (List.forall_mem_singleton.mpr not_failed_ok) _
        (List.prefix_refl _) fun pre ↦ refused_append_singleton.mpr (.inl ?_)
      cases role <;> exact ⟨h₀, h₄⟩
  · have hhead : Clean role [⟨.sys (.recv fd .word 4), .ok bs⟩] := by
      apply clean_singleton
      · cases role <;> exact fun h : _ ∧ _ ↦ h.2 h₄
      · exact id
    obtain ⟨hclean, -, hfailed⟩ := growBuffer_clean role hgrow
    exact (Outcome.failed (by decide) hclean (hfailed rfl)).cons hhead not_failed_ok
  · have hhead : Clean role [⟨.sys (.recv fd .word 4), .ok bs⟩] := by
      apply clean_singleton
      · cases role <;> exact fun h : _ ∧ _ ↦ h.2 h₄
      · exact id
    obtain ⟨hclean, hnone, -⟩ := growBuffer_clean role hgrow
    have hsize := Bytes.leNat_lt bs.val
    rw [h₄] at hsize
    exact ((outcome_receivePayload hsize hend).append_left hclean (hnone rfl)).cons hhead
      not_failed_ok

private theorem clean_peek {fd : Fd} {bs : {bs : List UInt8 // bs.length ≤ 4}} {addr : SockaddrIn}
    (h : role = .client → bs.val.length = 0 ∨ bs.val.length = 4) :
    Clean role [⟨.sys (.recvfrom fd .word 4 true), .ok (bs, addr)⟩] := by
  apply clean_singleton
  · cases role with
    | server => exact id
    | client => exact fun hr : _ ∧ _ ↦ (h rfl).elim hr.1 hr.2
  · exact id

/-- The `int` that fits behind a size of 32 bits. -/
theorem cInt_sub_eq_iff {len dataSize : Nat} (hsize : dataSize < 2 ^ 32)
    (hpos : 0 < cInt len) :
    (cInt len - 4) % 2 ^ 64 = dataSize ↔ cInt len = ((4 + dataSize : Nat) : Int) := by
  have hlt : cInt len < 2 ^ 31 := Int.bmod_lt (by decide)
  omega

private theorem outcome_takeDatagram {fd : Fd} {deliver : Option (List UInt8 → Callback)}
    {dataSize : Nat} {t t' : Thread ReceiveBuffer} (hsize : dataSize < 2 ^ 32)
    (h : Exec (takeDatagram fd (fun _ ↦ some deliver) (fun _ ↦ 1) dataSize) t tr n t') :
    Outcome .client n tr := by
  obtain ⟨r, rest, rfl, ⟨e, rfl, rfl, rfl, rfl⟩ | ⟨bs, addr, rfl, rfl, hend⟩⟩ :=
    exec_takeDatagram_cases h
  · exact outcome_error _ e
  rcases hend with ⟨rfl, hn, hroute⟩ | ⟨hpos, hfit, rfl, _, _, hdeliver⟩
  · rw [hn]
    by_cases hzero : cInt bs.val.length = 0
    · rw [if_pos hzero]
      exact .taken (Int.le_refl 0) (clean_singleton (fun hr : _ ∧ _ ↦ hr.1 hzero) id)
    · rw [if_neg hzero]
      refine .refused (by decide) (List.forall_mem_singleton.mpr not_failed_ok) _
        (List.prefix_refl _) fun pre ↦ refused_append_singleton.mpr (.inl ⟨hzero, fun heq ↦ ?_⟩)
      have hpos : 0 < cInt bs.val.length := by omega
      cases hroute hpos ((cInt_sub_eq_iff hsize hpos).mpr heq)
  · refine .taken Int.one_nonneg ((clean_singleton ?_ id).cons (clean_delivery _ hdeliver).1)
    exact fun hr : _ ∧ _ ↦ hr.2 ((cInt_sub_eq_iff hsize hpos).mp hfit)

/-- **The UDP receiver of a client** takes what comes, or a call fails, or it refuses. -/
theorem outcome_receiveUdpWith {fd : Fd} {deliver : Option (List UInt8 → Callback)}
    {t t' : Thread ReceiveBuffer}
    (h : Exec (receiveUdpWith fd (fun _ ↦ some deliver) fun _ ↦ 1) t tr n t') :
    Outcome .client n tr := by
  obtain ⟨size, rest, rfl, ⟨e, rfl, rfl, rfl, rfl⟩ | ⟨bs, addr, rfl, h₄, rfl, rfl, rfl⟩ |
    ⟨bs, addr, rfl, h₄, hgrow, rfl⟩ | ⟨bs, addr, tr₁, t₁, tr₂, rfl, h₄, rfl, hgrow, hend⟩⟩ :=
      exec_receiveUdpWith h
  · exact outcome_error _ e
  · by_cases h₀ : bs.val.length = 0
    · rw [if_pos h₀]
      exact .taken (Int.le_refl 0) (clean_peek fun _ ↦ .inl h₀)
    · rw [if_neg h₀]
      exact .refused (by decide) (List.forall_mem_singleton.mpr not_failed_ok) _
        (List.prefix_refl _) fun pre ↦ refused_append_singleton.mpr (.inl ⟨h₀, h₄⟩)
  · obtain ⟨hclean, -, hfailed⟩ := growBuffer_clean .client hgrow
    exact (Outcome.failed (by decide) hclean (hfailed rfl)).cons (clean_peek fun _ ↦ .inr h₄)
      not_failed_ok
  · obtain ⟨hclean, hnone, -⟩ := growBuffer_clean .client hgrow
    have hsize := Bytes.leNat_lt bs.val
    rw [h₄] at hsize
    exact ((outcome_takeDatagram hsize hend).append_left hclean (hnone rfl)).cons
      (clean_peek fun _ ↦ .inr h₄) not_failed_ok

/-- The server does not look at what its UDP receiver returns. -/
theorem clean_receiveUdpWith {fd : Fd} {route : Route} {success : Nat → Int}
    {t t' : Thread ReceiveBuffer} (h : Exec (receiveUdpWith fd route success) t tr n t') :
    Clean .server tr := by
  have hserver : Role.server = .client → ∀ p : Prop, p := nofun
  obtain ⟨size, rest, rfl, ⟨e, rfl, rfl, rfl, rfl⟩ | ⟨bs, addr, rfl, h₄, rfl, rfl, rfl⟩ |
    ⟨bs, addr, rfl, h₄, hgrow, rfl⟩ | ⟨bs, addr, tr₁, t₁, tr₂, rfl, h₄, rfl, hgrow, hend⟩⟩ :=
      exec_receiveUdpWith h
  · exact clean_error _ e
  · exact clean_peek fun h ↦ hserver h _
  · exact Clean.cons (clean_peek fun h ↦ hserver h _) (growBuffer_clean _ hgrow).1
  · refine Clean.cons (clean_peek fun h ↦ hserver h _)
      ((growBuffer_clean _ hgrow).1.append ?_)
    obtain ⟨r, rest, rfl, ⟨e, rfl, rfl, rfl, rfl⟩ |
      ⟨bs, addr, rfl, rfl, ⟨rfl, -⟩ | ⟨-, -, -, _, -, hdeliver⟩⟩⟩ := exec_takeDatagram_cases hend
    · exact clean_error _ e
    · exact clean_singleton id id
    · exact Clean.cons (clean_singleton id id) (clean_delivery _ hdeliver).1

end

end Udtcp
