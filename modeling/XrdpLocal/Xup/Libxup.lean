import XrdpLocal.Library.CString
import XrdpLocal.Library.Trace
import XrdpLocal.Xup.InputPath
/-!
# The check for DMA-BUF support in libxup

An older libxup leaves `mod_send_dma_buf_notify` uninitialised, so the client
looks the pointer up in the memory map of the process before it requests
anything through it. The search is in `check_dma_buf_supported_in_libxup`; its
result gates `request_dma_buf`, and `process_xrdp_events` is where the pointer
is called.
-/

namespace XrdpLocal.Xup

open CString StateMachine Trace

/-! ## The memory map -/

/-- `ElfW(Phdr)`, as far as it is read. -/
structure Phdr where
  pType : UInt32
  pVaddr : UInt64
  pMemsz : UInt64

def ptLoad : UInt32 := 1

/-- `struct dl_phdr_info`. `dlpiName` is `none` for a null pointer. -/
structure DlPhdrInfo where
  dlpiName : Option (List Char)
  dlpiAddr : UInt64
  dlpiPhdr : List Phdr

/-- `dl_iterate_phdr`: the callback runs for one object after the other, until
it returns something other than 0. -/
def dlIteratePhdr {σ : Type*} (callback : DlPhdrInfo → σ → Int × σ) :
    List DlPhdrInfo → σ → Int × σ
  | [], st => (0, st)
  | info :: infos, st =>
      let (ret, st') := callback info st
      if ret ≠ 0 then (ret, st') else dlIteratePhdr callback infos st'

/-- The loop over the program headers of one object. `notify` is
`mod_send_dma_buf_notify` as an address. -/
def searchPhdrs (notify dlpiAddr : UInt64) : List Phdr → XrdpModState → Int × XrdpModState
  | [], st => (0, st)
  | phdr :: phdrs, st =>
      if phdr.pType = ptLoad then
        let start := dlpiAddr + phdr.pVaddr
        let size := phdr.pMemsz
        if notify ≠ 0 ∧ notify ≥ start ∧ notify < start + size then
          (1, { st with dmaBufSupportedInLibxup := true })
        else searchPhdrs notify dlpiAddr phdrs st
      else searchPhdrs notify dlpiAddr phdrs st

def libxupSo : List Char := ['l', 'i', 'b', 'x', 'u', 'p', '.', 's', 'o']

def dmaBufSupportedInLibxupCallback (notify : UInt64) (info : DlPhdrInfo) (st : XrdpModState) :
    Int × XrdpModState :=
  match info.dlpiName with
  | none => (0, st)
  | some name =>
      if (strstr name libxupSo).isSome then
        searchPhdrs notify info.dlpiAddr info.dlpiPhdr st
      else (0, st)

def checkDmaBufSupportedInLibxup (notify : UInt64) (infos : List DlPhdrInfo) (st : XrdpModState) :
    XrdpModState :=
  (dlIteratePhdr (dmaBufSupportedInLibxupCallback notify) infos st).2

/-! ## Where the pointer should point -/

/-- The segment, moved to the base address of its object, ends below the top of
the address space. -/
def Phdr.NoWrap (dlpiAddr : UInt64) (phdr : Phdr) : Prop :=
  dlpiAddr.toNat + phdr.pVaddr.toNat + phdr.pMemsz.toNat < 2 ^ 64

def NoWrapAround (infos : List DlPhdrInfo) : Prop :=
  ∀ info ∈ infos, ∀ phdr ∈ info.dlpiPhdr, phdr.pType = ptLoad → phdr.NoWrap info.dlpiAddr

structure Phdr.Contains (dlpiAddr : UInt64) (phdr : Phdr) (address : UInt64) : Prop where
  start : dlpiAddr.toNat + phdr.pVaddr.toNat ≤ address.toNat
  memsz : address.toNat < dlpiAddr.toNat + phdr.pVaddr.toNat + phdr.pMemsz.toNat

/-- The address lies in a loaded segment of the object, whose name is that of
libxup. -/
structure DlPhdrInfo.IsLibxupAt (info : DlPhdrInfo) (address : UInt64) : Prop where
  name : ∃ name, info.dlpiName = some name ∧ libxupSo <:+: name
  segment : ∃ phdr ∈ info.dlpiPhdr, phdr.pType = ptLoad ∧ phdr.Contains info.dlpiAddr address

structure InLibxup (infos : List DlPhdrInfo) (notify : UInt64) : Prop where
  nonNull : notify ≠ 0
  object : ∃ info ∈ infos, info.IsLibxupAt notify

theorem contains_iff {dlpiAddr : UInt64} {phdr : Phdr} (h : phdr.NoWrap dlpiAddr)
    (address : UInt64) :
    (address ≥ dlpiAddr + phdr.pVaddr ∧ address < dlpiAddr + phdr.pVaddr + phdr.pMemsz) ↔
      phdr.Contains dlpiAddr address := by
  unfold Phdr.NoWrap at h
  have hstart : (dlpiAddr + phdr.pVaddr).toNat = dlpiAddr.toNat + phdr.pVaddr.toNat := by
    rw [UInt64.toNat_add, Nat.mod_eq_of_lt (by omega)]
  have hend : (dlpiAddr + phdr.pVaddr + phdr.pMemsz).toNat =
      dlpiAddr.toNat + phdr.pVaddr.toNat + phdr.pMemsz.toNat := by
    rw [UInt64.toNat_add, hstart, Nat.mod_eq_of_lt h]
  rw [ge_iff_le, UInt64.le_iff_toNat_le, UInt64.lt_iff_toNat_lt, hstart, hend]
  exact ⟨fun ⟨hs, he⟩ => ⟨hs, he⟩, fun ⟨hs, he⟩ => ⟨hs, he⟩⟩

/-! ## The search -/

/-- How a search ends: with 1 and the member set if it is successful, with 0
and nothing changed otherwise. -/
structure SearchEnds (st : XrdpModState) (successful : Prop) (result : Int × XrdpModState) :
    Prop where
  found : successful → result = (1, { st with dmaBufSupportedInLibxup := true })
  notFound : ¬ successful → result = (0, st)

theorem SearchEnds.congr {st : XrdpModState} {successful successful' : Prop}
    {result : Int × XrdpModState} (h : SearchEnds st successful result)
    (hiff : successful ↔ successful') : SearchEnds st successful' result := by
  rwa [← hiff]

theorem searchPhdrs_ends (notify : UInt64) {dlpiAddr : UInt64} {phdrs : List Phdr}
    (hwrap : ∀ phdr ∈ phdrs, phdr.pType = ptLoad → phdr.NoWrap dlpiAddr) (st : XrdpModState) :
    SearchEnds st
      (notify ≠ 0 ∧ ∃ phdr ∈ phdrs, phdr.pType = ptLoad ∧ phdr.Contains dlpiAddr notify)
      (searchPhdrs notify dlpiAddr phdrs st) := by
  induction phdrs with
  | nil =>
      constructor
      · rintro ⟨_, phdr, hmem, _⟩
        cases hmem
      · exact fun _ => rfl
  | cons phdr phdrs ih =>
      obtain ⟨hhere, hrest⟩ := List.forall_mem_cons.mp hwrap
      have ih := ih hrest
      by_cases hhit : notify ≠ 0 ∧ phdr.pType = ptLoad ∧ phdr.Contains dlpiAddr notify
      · obtain ⟨hnull, hload, hcontains⟩ := hhit
        have hrange := (contains_iff (hhere hload) notify).mpr hcontains
        constructor
        · intro _
          rw [searchPhdrs, if_pos hload]
          exact if_pos ⟨hnull, hrange⟩
        · exact fun hnot => absurd ⟨hnull, phdr, List.mem_cons_self, hload, hcontains⟩ hnot
      · have hskip : searchPhdrs notify dlpiAddr (phdr :: phdrs) st =
            searchPhdrs notify dlpiAddr phdrs st := by
          rw [searchPhdrs]
          split
          · next hload =>
              refine if_neg fun ⟨hnull, hrange⟩ => hhit ⟨hnull, hload, ?_⟩
              exact (contains_iff (hhere hload) notify).mp hrange
          · rfl
        rw [hskip]
        refine ih.congr ⟨?_, ?_⟩
        · rintro ⟨hnull, other, hmem, hother⟩
          exact ⟨hnull, other, List.mem_cons_of_mem phdr hmem, hother⟩
        · rintro ⟨hnull, other, hmem, hother⟩
          rcases List.mem_cons.mp hmem with rfl | hmem
          · exact absurd ⟨hnull, hother⟩ hhit
          · exact ⟨hnull, other, hmem, hother⟩

theorem dmaBufSupportedInLibxupCallback_ends (notify : UInt64) {info : DlPhdrInfo}
    (hwrap : ∀ phdr ∈ info.dlpiPhdr, phdr.pType = ptLoad → phdr.NoWrap info.dlpiAddr)
    (st : XrdpModState) :
    SearchEnds st (notify ≠ 0 ∧ info.IsLibxupAt notify)
      (dmaBufSupportedInLibxupCallback notify info st) := by
  have hsearch := searchPhdrs_ends notify hwrap st
  unfold dmaBufSupportedInLibxupCallback
  split
  · next hnone =>
      constructor
      · rintro ⟨_, ⟨name, hname, _⟩, _⟩
        rw [hnone] at hname
        cases hname
      · exact fun _ => rfl
  · next name hname =>
      have hstrstr := isSome_strstr name libxupSo
      split
      · next hfound =>
          have hlib := hstrstr.mp hfound
          refine hsearch.congr ⟨?_, ?_⟩
          · exact fun ⟨hnull, hsegment⟩ => ⟨hnull, ⟨name, hname, hlib⟩, hsegment⟩
          · exact fun ⟨hnull, hat⟩ => ⟨hnull, hat.segment⟩
      · next hfound =>
          constructor
          · rintro ⟨_, ⟨name', hname', hlib⟩, _⟩
            rw [hname, Option.some.injEq] at hname'
            rw [← hname'] at hlib
            exact absurd (hstrstr.mpr hlib) hfound
          · exact fun _ => rfl

theorem dlIteratePhdr_ends {callback : DlPhdrInfo → XrdpModState → Int × XrdpModState}
    {successful : DlPhdrInfo → Prop} {infos : List DlPhdrInfo} {st : XrdpModState}
    (h : ∀ info ∈ infos, SearchEnds st (successful info) (callback info st)) :
    SearchEnds st (∃ info ∈ infos, successful info) (dlIteratePhdr callback infos st) := by
  induction infos with
  | nil =>
      constructor
      · rintro ⟨info, hmem, _⟩
        cases hmem
      · exact fun _ => rfl
  | cons info infos ih =>
      obtain ⟨hhere, hrest⟩ := List.forall_mem_cons.mp h
      have ih := ih hrest
      by_cases hhit : successful info
      · constructor
        · intro _
          rw [dlIteratePhdr, hhere.found hhit]
          rfl
        · exact fun hnot => absurd ⟨info, List.mem_cons_self, hhit⟩ hnot
      · have hskip : dlIteratePhdr callback (info :: infos) st =
            dlIteratePhdr callback infos st := by
          rw [dlIteratePhdr, hhere.notFound hhit]
          rfl
        rw [hskip]
        refine ih.congr ?_
        simp only [List.mem_cons, exists_eq_or_imp, hhit, false_or]

theorem checkDmaBufSupportedInLibxup_eq (notify : UInt64) {infos : List DlPhdrInfo}
    (hwrap : NoWrapAround infos) (st : XrdpModState) :
    (InLibxup infos notify → checkDmaBufSupportedInLibxup notify infos st =
      { st with dmaBufSupportedInLibxup := true }) ∧
    (¬ InLibxup infos notify → checkDmaBufSupportedInLibxup notify infos st = st) := by
  have hends := dlIteratePhdr_ends fun info hmem =>
    dmaBufSupportedInLibxupCallback_ends notify (hwrap info hmem) st
  have hiff : (∃ info ∈ infos, notify ≠ 0 ∧ info.IsLibxupAt notify) ↔ InLibxup infos notify := by
    constructor
    · exact fun ⟨info, hmem, hnull, hat⟩ => ⟨hnull, info, hmem, hat⟩
    · exact fun ⟨hnull, info, hmem, hat⟩ => ⟨info, hmem, hnull, hat⟩
  have hends := hends.congr hiff
  constructor
  · exact fun hin => congrArg Prod.snd (hends.found hin)
  · exact fun hnot => congrArg Prod.snd (hends.notFound hnot)

theorem dmaBufSupportedInLibxup_iff (notify : UInt64) {infos : List DlPhdrInfo}
    (hwrap : NoWrapAround infos) {st : XrdpModState} (hst : st.dmaBufSupportedInLibxup = false) :
    (checkDmaBufSupportedInLibxup notify infos st).dmaBufSupportedInLibxup = true ↔
      InLibxup infos notify := by
  obtain ⟨hin, hout⟩ := checkDmaBufSupportedInLibxup_eq notify hwrap st
  by_cases hlib : InLibxup infos notify
  · rw [hin hlib]
    exact iff_of_true rfl hlib
  · rw [hout hlib, hst]
    exact iff_of_false Bool.false_ne_true hlib

/-! ## Requests and passes -/

inductive ModCall
  | modEvent (event : XrdpEvent)
  | modSendDmaBufNotify (target : UInt64) (notify : DmaBufNotify)
  deriving DecidableEq

def sendXrdpEvents (modEvent : Bool) : List XrdpEvent → List ModCall
  | [] => []
  | event :: rest =>
      if modEvent then .modEvent event :: sendXrdpEvents modEvent rest
      else sendXrdpEvents modEvent rest

def XrdpModState.processXrdpEvents (notify : UInt64) (st : XrdpModState) :
    List ModCall × XrdpModState :=
  let sent := sendXrdpEvents st.modEvent st.xrdpEvents
  let st := { st with xrdpEvents := [] }
  if st.doRequestDmaBuf then
    (sent ++ [.modSendDmaBufNotify notify .requestActivate], { st with doRequestDmaBuf := false })
  else (sent, st)

theorem processXrdpEvents_idle {st : XrdpModState} (h : st.doRequestDmaBuf = false)
    (notify : UInt64) : st.processXrdpEvents notify =
      (sendXrdpEvents st.modEvent st.xrdpEvents, { st with xrdpEvents := [] }) := by
  simp [XrdpModState.processXrdpEvents, h]

theorem processXrdpEvents_request {st : XrdpModState} (h : st.doRequestDmaBuf = true)
    (notify : UInt64) : st.processXrdpEvents notify =
      (sendXrdpEvents st.modEvent st.xrdpEvents ++ [.modSendDmaBufNotify notify .requestActivate],
        { st with xrdpEvents := [], doRequestDmaBuf := false }) := by
  simp [XrdpModState.processXrdpEvents, h]

/-- What happens on the way of a request: an event is queued,
`request_dma_buf` is called, or `process_xrdp_events` makes a call. -/
inductive Entry
  | queued (event : XrdpEvent)
  | requestDmaBuf
  | called (call : ModCall)
  deriving DecidableEq

def Entry.queuedEvent : Entry → Option XrdpEvent
  | .queued event => some event
  | _ => none

def Entry.sentEvent : Entry → Option XrdpEvent
  | .called (.modEvent event) => some event
  | _ => none

def Entry.isRequest : Entry → Bool
  | .requestDmaBuf => true
  | _ => false

def Entry.isNotify : Entry → Bool
  | .called (.modSendDmaBufNotify ..) => true
  | _ => false

namespace DmaBufRequest

/-- The members after the check, and everything that has happened since. -/
structure State where
  mod : XrdpModState
  trace : List Entry := []

/-- One step is a whole call, or a whole pass of `process_xrdp_events`. -/
inductive Action
  | enqueueXrdpEvent (event : XrdpEvent)
  | requestDmaBuf
  | processXrdpEvents

def step (notify : UInt64) (s : State) : Action → Option State
  | .enqueueXrdpEvent event =>
      some {
        mod := s.mod.enqueueXrdpEvent event
        trace := s.trace ++ if s.mod.modEvent then [.queued event] else [] }
  | .requestDmaBuf =>
      some { mod := s.mod.requestDmaBuf, trace := s.trace ++ [.requestDmaBuf] }
  | .processXrdpEvents =>
      let pass := s.mod.processXrdpEvents notify
      some { mod := pass.2, trace := s.trace ++ pass.1.map .called }

/-- The machine for a libxup with or without `mod_event`, after the check. -/
def machine (modEvent : Bool) (notify : UInt64) (infos : List DlPhdrInfo) :
    Machine State Action where
  start := { mod := checkDmaBufSupportedInLibxup notify infos ⟨modEvent, false, [], false⟩ }
  step := step notify

/-- What a notification needs: it is the request, through a pointer into
libxup, for a call of `request_dma_buf` that has not been answered yet, and
every event queued before has been sent. -/
structure MayNotify (infos : List DlPhdrInfo) (before : List Entry) (target : UInt64)
    (notify : DmaBufNotify) : Prop where
  activate : notify = .requestActivate
  inLibxup : InLibxup infos target
  requested : before.countP Entry.isNotify < before.countP Entry.isRequest
  sent : before.filterMap Entry.sentEvent = before.filterMap Entry.queuedEvent

def Allowed (infos : List DlPhdrInfo) (before : List Entry) (entry : Entry) : Prop :=
  ∀ target notify, entry = .called (.modSendDmaBufNotify target notify) →
    MayNotify infos before target notify

/-- The flag stands for the pointer, a pending request for the flag and for a
call of `request_dma_buf` of its own, and the queue for what is queued and not
yet sent. -/
structure Inv (infos : List DlPhdrInfo) (notify : UInt64) (s : State) : Prop where
  supported : s.mod.dmaBufSupportedInLibxup = true → InLibxup infos notify
  requested : s.mod.doRequestDmaBuf = true → s.mod.dmaBufSupportedInLibxup = true
  idle : s.mod.modEvent = false → s.mod.xrdpEvents = []
  pending : s.trace.filterMap Entry.sentEvent ++ s.mod.xrdpEvents =
    s.trace.filterMap Entry.queuedEvent
  counts : s.trace.countP Entry.isNotify + (if s.mod.doRequestDmaBuf then 1 else 0) ≤
    s.trace.countP Entry.isRequest
  allowed : Each (Allowed infos) s.trace

variable {infos : List DlPhdrInfo} {notify : UInt64} {s s' : State}

theorem allowed_of_notNotify {entry : Entry} (h : entry.isNotify = false) (before : List Entry) :
    Allowed infos before entry := by
  rintro target notify rfl
  cases h

theorem Inv.enqueueXrdpEvent (h : Inv infos notify s) {event : XrdpEvent}
    (hstep : step notify s (.enqueueXrdpEvent event) = some s') : Inv infos notify s' := by
  obtain rfl := Option.some.inj hstep
  cases hmod : s.mod.modEvent with
  | false => simpa [XrdpModState.enqueueXrdpEvent, hmod] using h
  | true =>
      rw [XrdpModState.enqueueXrdpEvent, if_pos hmod, if_pos rfl]
      refine ⟨h.supported, h.requested, fun hnone => ?_, ?_, ?_, ?_⟩
      · rw [hmod] at hnone
        cases hnone
      · simp [List.filterMap_cons, Entry.sentEvent, Entry.queuedEvent, ← h.pending]
      · simpa [Entry.isNotify, Entry.isRequest] using h.counts
      · exact h.allowed.concat (allowed_of_notNotify rfl _)

theorem Inv.requestDmaBuf (h : Inv infos notify s)
    (hstep : step notify s .requestDmaBuf = some s') : Inv infos notify s' := by
  obtain rfl := Option.some.inj hstep
  have hpending : (s.trace ++ [Entry.requestDmaBuf]).filterMap Entry.sentEvent ++
      s.mod.xrdpEvents = (s.trace ++ [Entry.requestDmaBuf]).filterMap Entry.queuedEvent := by
    simpa [List.filterMap_cons, Entry.sentEvent, Entry.queuedEvent] using h.pending
  have hallowed : Each (Allowed infos) (s.trace ++ [.requestDmaBuf]) :=
    h.allowed.concat (allowed_of_notNotify rfl _)
  have hnotified : (s.trace ++ [Entry.requestDmaBuf]).countP Entry.isNotify =
      s.trace.countP Entry.isNotify := by simp [Entry.isNotify]
  have hrequests : (s.trace ++ [Entry.requestDmaBuf]).countP Entry.isRequest =
      s.trace.countP Entry.isRequest + 1 := by simp [Entry.isRequest]
  have hcounts := h.counts
  cases hflag : s.mod.dmaBufSupportedInLibxup with
  | false =>
      rw [XrdpModState.requestDmaBuf, if_neg (by simp [hflag])]
      refine ⟨h.supported, h.requested, h.idle, hpending, ?_, hallowed⟩
      rw [hnotified, hrequests]
      exact Nat.le_succ_of_le hcounts
  | true =>
      rw [XrdpModState.requestDmaBuf, if_pos hflag]
      refine ⟨h.supported, fun _ => hflag, h.idle, hpending, ?_, hallowed⟩
      rw [hnotified, hrequests, if_pos rfl]
      omega

theorem sendXrdpEvents_eq {modEvent : Bool} {events : List XrdpEvent}
    (h : modEvent = false → events = []) :
    sendXrdpEvents modEvent events = events.map .modEvent := by
  cases modEvent with
  | false =>
      rw [h rfl]
      rfl
  | true =>
      clear h
      induction events with
      | nil => rfl
      | cons event rest ih => rw [sendXrdpEvents, if_pos rfl, ih, List.map_cons]

theorem Inv.sent (h : Inv infos notify s) :
    let sent := (sendXrdpEvents s.mod.modEvent s.mod.xrdpEvents).map Entry.called
    (s.trace ++ sent).filterMap Entry.sentEvent = (s.trace ++ sent).filterMap Entry.queuedEvent ∧
      (s.trace ++ sent).countP Entry.isNotify = s.trace.countP Entry.isNotify ∧
      (s.trace ++ sent).countP Entry.isRequest = s.trace.countP Entry.isRequest ∧
      Each (Allowed infos) (s.trace ++ sent) := by
  intro sent
  have hsent : sent = s.mod.xrdpEvents.map fun event => .called (.modEvent event) := by
    simp only [sent, sendXrdpEvents_eq h.idle, List.map_map, Function.comp_def]
  rw [hsent]
  refine ⟨?_, ?_, ?_, ?_⟩
  · rw [List.filterMap_append, List.filterMap_append, ← h.pending, List.filterMap_map,
      List.filterMap_map]
    simp [Function.comp_def, Entry.sentEvent, Entry.queuedEvent]
  · simp [List.countP_map, Function.comp_def, Entry.isNotify]
  · simp [List.countP_map, Function.comp_def, Entry.isRequest]
  · refine h.allowed.append fun entry hmem before => ?_
    obtain ⟨event, _, rfl⟩ := List.mem_map.mp hmem
    exact allowed_of_notNotify rfl before

theorem Inv.processXrdpEvents (h : Inv infos notify s)
    (hstep : step notify s .processXrdpEvents = some s') : Inv infos notify s' := by
  obtain rfl := Option.some.inj hstep
  obtain ⟨hsent, hnotified, hrequests, hallowed⟩ := h.sent
  have hcounts := h.counts
  cases hdo : s.mod.doRequestDmaBuf with
  | false =>
      rw [processXrdpEvents_idle hdo]
      refine ⟨h.supported, h.requested, fun _ => rfl, ?_, ?_, hallowed⟩
      · rw [List.append_nil]
        exact hsent
      · rw [hnotified, hrequests]
        exact hcounts
  | true =>
      rw [if_pos hdo] at hcounts
      rw [processXrdpEvents_request hdo, List.map_append, ← List.append_assoc]
      refine ⟨h.supported, fun hnot => ?_, fun _ => rfl, ?_, ?_, ?_⟩
      · cases hnot
      · simpa [List.filterMap_cons, Entry.sentEvent, Entry.queuedEvent] using hsent
      · simp only [List.countP_append] at hnotified hrequests ⊢
        simp only [List.map_cons, List.map_nil, List.countP_singleton, Entry.isNotify,
          Entry.isRequest, if_true, Bool.false_eq_true, if_false]
        omega
      · refine hallowed.concat fun target what hcall => ?_
        cases hcall
        refine ⟨rfl, h.supported (h.requested hdo), ?_, hsent⟩
        rw [hnotified, hrequests]
        exact hcounts

theorem inv_of_reachable {modEvent : Bool} (hwrap : NoWrapAround infos)
    (hreach : (machine modEvent notify infos).Reachable s) : Inv infos notify s := by
  refine hreach.invariant (I := Inv infos notify) ?_ ?_
  · obtain ⟨hin, hout⟩ :=
      checkDmaBufSupportedInLibxup_eq notify hwrap ⟨modEvent, false, [], false⟩
    by_cases hlib : InLibxup infos notify
    · rw [machine, hin hlib]
      refine ⟨fun _ => hlib, fun hdo => ?_, fun _ => rfl, rfl, Nat.le_refl 0, each_nil⟩
      cases hdo
    · rw [machine, hout hlib]
      refine ⟨fun hflag => ?_, fun hdo => hdo, fun _ => rfl, rfl, Nat.le_refl 0, each_nil⟩
      cases hflag
  · intro t t' action _ hinv _ hstep
    cases action with
    | enqueueXrdpEvent event => exact hinv.enqueueXrdpEvent hstep
    | requestDmaBuf => exact hinv.requestDmaBuf hstep
    | processXrdpEvents => exact hinv.processXrdpEvents hstep

/-- The check sets the member exactly for a pointer into libxup, and whatever
is queued and requested afterwards, the pointer is only called when it may be. -/
theorem dmaBufNotify_gated {infos : List DlPhdrInfo} (hwrap : NoWrapAround infos)
    (modEvent : Bool) (notify : UInt64) :
    ((machine modEvent notify infos).start.mod.dmaBufSupportedInLibxup = true ↔
        InLibxup infos notify) ∧
      ∀ s, (machine modEvent notify infos).Reachable s → Each (Allowed infos) s.trace := by
  constructor
  · exact dmaBufSupportedInLibxup_iff notify hwrap rfl
  · intro s hreach
    exact (inv_of_reachable hwrap hreach).allowed

/-- A program without a name, an unrelated library, and a libxup with a header
that is not loaded in front of the one that is. -/
def threeObjects : List DlPhdrInfo :=
  [⟨none, 0x400000, [⟨ptLoad, 0, 0x1000⟩]⟩,
    ⟨some ['/', 'l', 'i', 'b', 'c', '.', 's', 'o'], 0x7f0000000000, [⟨ptLoad, 0, 0x100000⟩]⟩,
    ⟨some ('/' :: libxupSo ++ ['.', '0']), 0x7f1000000000,
      [⟨6, 0, 0x10000⟩, ⟨ptLoad, 0x1000, 0x2000⟩]⟩]

/-- There, a request through a pointer into the loaded segment is sent, after
the event that was queued. -/
theorem dmaBufNotify_gated_threeObjects :
    (((machine true 0x7f1000001234 threeObjects).start.mod.dmaBufSupportedInLibxup = true ↔
        InLibxup threeObjects 0x7f1000001234) ∧
      ∀ s, (machine true 0x7f1000001234 threeObjects).Reachable s →
        Each (Allowed threeObjects) s.trace) ∧
    ((machine true 0x7f1000001234 threeObjects).run
        (machine true 0x7f1000001234 threeObjects).start
        [.requestDmaBuf, .enqueueXrdpEvent ⟨.wmKeyDown, 0, 0, 30, 0⟩, .processXrdpEvents]).map
      State.trace = some
        [.requestDmaBuf, .queued ⟨.wmKeyDown, 0, 0, 30, 0⟩,
          .called (.modEvent ⟨.wmKeyDown, 0, 0, 30, 0⟩),
          .called (.modSendDmaBufNotify 0x7f1000001234 .requestActivate)] := by
  have hwrap : NoWrapAround threeObjects := by
    unfold NoWrapAround Phdr.NoWrap threeObjects
    decide
  exact ⟨dmaBufNotify_gated hwrap true _, by decide⟩

end DmaBufRequest

/-! ## A pass as one step -/

def ModCall.event : ModCall → Option XrdpEvent
  | .modEvent event => some event
  | .modSendDmaBufNotify .. => none

def ModCall.notify : ModCall → Option DmaBufNotify
  | .modEvent _ => none
  | .modSendDmaBufNotify _ notify => some notify

theorem filterMap_notify_sendXrdpEvents (modEvent : Bool) (events : List XrdpEvent) :
    (sendXrdpEvents modEvent events).filterMap ModCall.notify = [] := by
  induction events with
  | nil => rfl
  | cons event rest ih =>
      rw [sendXrdpEvents]
      split
      · exact ih
      · exact ih

namespace InputPath

variable {modEvent supported : Bool}

theorem run_loop (events : List XrdpEvent) (s : State) (hdrain : s.drain = .loop)
    (hevents : s.mod.xrdpEvents = events) :
    (machine modEvent supported).run s (List.replicate (2 * events.length) .drainStep) =
      some { s with
        mod := { s.mod with xrdpEvents := [] }
        sent := s.sent ++ (sendXrdpEvents s.mod.modEvent events).filterMap ModCall.event } := by
  induction events generalizing s with
  | nil =>
      obtain ⟨⟨_, _, _, _⟩, _, _, _, _, _, _⟩ := s
      cases hevents
      simp [sendXrdpEvents]
  | cons event rest ih =>
      have hpop : step s .drainStep =
          some { s with mod := { s.mod with xrdpEvents := rest }, drain := .send event } := by
        simp only [step, hdrain, hevents]
      have hlength : 2 * (event :: rest).length = 2 * rest.length + 1 + 1 := rfl
      rw [hlength, List.replicate_succ, List.replicate_succ, Machine.run_cons_of_step hpop,
        Machine.run_cons_of_step (by rfl), ih _ rfl rfl]
      cases hmod : s.mod.modEvent <;>
        simp [sendXrdpEvents, hmod, ModCall.event, hdrain]

/-- A pass as one step is what the steps of a whole pass come to. -/
theorem run_pass (notify : UInt64) (s : State) (hdrain : s.drain = .outside) :
    let pass := s.mod.processXrdpEvents notify
    (machine modEvent supported).run s
        (.process :: List.replicate (2 * s.mod.xrdpEvents.length + 2) .drainStep) =
      some { s with
        mod := pass.2
        sent := s.sent ++ pass.1.filterMap ModCall.event
        notified := s.notified ++ pass.1.filterMap ModCall.notify } := by
  intro pass
  have hstart : step s .process = some { s with drain := .loop } := by
    simp only [step, hdrain]
  have hloop : (machine modEvent supported).run { s with drain := .loop }
      (List.replicate (2 * s.mod.xrdpEvents.length) .drainStep) = _ :=
    run_loop s.mod.xrdpEvents _ rfl rfl
  rw [Machine.run_cons_of_step hstart, List.replicate_add, Machine.run_append, hloop,
    Option.bind_some]
  have hcalls := filterMap_notify_sendXrdpEvents s.mod.modEvent s.mod.xrdpEvents
  cases hdo : s.mod.doRequestDmaBuf with
  | false =>
      simp [List.replicate_succ, machine, step, hdo, processXrdpEvents_idle hdo, pass, hcalls,
        hdrain]
  | true =>
      simp [List.replicate_succ, machine, step, hdo, processXrdpEvents_request hdo, pass, hcalls,
        hdrain, ModCall.event, ModCall.notify]

end InputPath

end XrdpLocal.Xup
