import Omq.Tokio.FanOut.Decodable
import Omq.Tokio.Routing.FanOut

/-!
# Groups of a RADIO socket

The groups of a peer are kept as text: a JOIN or LEAVE of bytes which are no text is ignored, but
the group of a message is decoded with replacement characters.  So peers are selected by the exact
bytes of a group if these are text, and only then.
-/

namespace Omq

open List

/-- What a DISH peer says about its groups. -/
inductive GroupCommand
  | join (group : Bytes)
  | leave (group : Bytes)

namespace GroupCommand

def control {Peer : Type*} (peer : Peer) : GroupCommand → LaneControl Peer
  | .join group => .join peer group
  | .leave group => .leave peer group

/-- The groups which are joined and not left, byte by byte. -/
def apply (joined : List Bytes) : GroupCommand → List Bytes
  | .join group => group :: joined
  | .leave group => joined.filter (· ≠ group)

/-- The groups as `peer_join` and `peer_leave` keep them in the table of the socket. -/
def regroup (groups : List (List Char)) : GroupCommand → List (List Char)
  | .join group => if isUtf8 group then groups.insert (fromUtf8Lossy group) else groups
  | .leave group =>
    if isUtf8 group then groups.filter (· ≠ fromUtf8Lossy group) else groups

variable (commands : List GroupCommand)

/-- The groups which a peer joined and did not leave. -/
def joined : List Bytes := commands.foldl apply []

/-- What is kept of them. -/
def kept : List (List Char) := commands.foldl regroup []

/-- What is kept are the joined groups which are text. -/
theorem mem_foldl_regroup {before : List Bytes} {groups : List (List Char)}
    (holds : ∀ name, name ∈ groups ↔ ∃ group ∈ before, isUtf8 group ∧ fromUtf8Lossy group = name)
    (name : List Char) : name ∈ commands.foldl regroup groups ↔
      ∃ group ∈ commands.foldl apply before, isUtf8 group ∧ fromUtf8Lossy group = name := by
  induction commands generalizing before groups with
  | nil => exact holds name
  | cons command commands induction =>
    refine induction fun name => ?_
    cases command with
    | join group =>
      by_cases text : isUtf8 group
      · simp only [regroup, apply, text, if_true, mem_insert_iff, holds, mem_cons,
          exists_eq_or_imp, true_and]
        exact or_congr_left eq_comm
      · simp [regroup, apply, text, holds]
    | leave group =>
      by_cases text : isUtf8 group
      · simp only [regroup, apply, text, if_true, mem_filter, holds, decide_eq_true_eq]
        constructor
        · rintro ⟨⟨other, member, valid, rfl⟩, apart⟩
          exact ⟨other, ⟨member, fun same => apart (congrArg _ same)⟩, valid, rfl⟩
        · rintro ⟨other, ⟨member, apart⟩, valid, rfl⟩
          exact ⟨⟨other, member, valid, rfl⟩, fun same => apart (fromUtf8Lossy_inj valid text same)⟩
      · rw [regroup, if_neg text, holds]
        refine exists_congr fun other => and_congr_left fun valid => ?_
        simp only [apply, mem_filter, decide_eq_true_eq]
        exact (and_iff_left fun same : other = group => text (same ▸ valid.1)).symm

/-- The group of a message is found exactly when its bytes are joined, whatever is joined and left,
if and only if they are text. -/
theorem mem_kept_iff (group : Bytes) :
    (∀ commands, fromUtf8Lossy group ∈ kept commands ↔ group ∈ joined commands) ↔
      isUtf8 group = true := by
  have mem_kept commands : fromUtf8Lossy group ∈ kept commands ↔ ∃ other ∈ joined commands,
      isUtf8 other ∧ fromUtf8Lossy other = fromUtf8Lossy group :=
    mem_foldl_regroup commands (by simp) _
  simp only [mem_kept]
  constructor
  · intro exactly
    obtain ⟨other, member, text, -⟩ := (exactly [.join group]).mpr (.head _)
    exact mem_singleton.mp member ▸ text
  · intro text commands
    constructor
    · rintro ⟨other, member, valid, same⟩
      exact fromUtf8Lossy_inj valid text same ▸ member
    · exact fun member => ⟨group, member, text, rfl⟩

end GroupCommand

namespace LaneWorker

open GroupCommand

section

variable {Peer : Type*} [DecidableEq Peer] [CompressionPrimitives]

def obey (lane : LaneWorker Peer) (peer : Peer) (commands : List GroupCommand) : LaneWorker Peer :=
  commands.foldl (fun lane command => lane.handleControl (command.control peer)) lane

theorem obey_eq (lane : LaneWorker Peer) (peer : Peer) (commands : List GroupCommand) :
    lane.obey peer commands = lane.modifyPeer peer fun entry =>
      { entry with groups := commands.foldl GroupCommand.regroup entry.groups } := by
  unfold obey
  induction commands generalizing lane with
  | nil => simp [modifyPeer]
  | cons command commands induction =>
    have regrouped : lane.handleControl (command.control peer) = lane.modifyPeer peer fun entry =>
        { entry with groups := command.regroup entry.groups } := by
      cases command <;> simp only [GroupCommand.control, handleControl, GroupCommand.regroup] <;>
        split_ifs <;> simp [modifyPeer]
    rw [foldl_cons, regrouped, induction]
    simp only [modifyPeer, map_map]
    congr 2
    funext entry
    simp only [Function.comp]
    split_ifs <;> rfl

/-- A peer, of a lane or outside the lanes, is selected by the exact bytes of a group, whatever it
joins and leaves, exactly when the group is text. -/
theorem selected_exactly_iff {lane : LaneWorker Peer} {peer : Peer} (radio : lane.mode = .group)
    (active : (lane.slots peer).fanoutActive = true) {message : Message} {group body : Bytes}
    (parts : message.parts = [group, body]) (short : group.length ≤ 255) :
    ∃ dispatch, LaneDispatch.prepare .group message = .ok dispatch ∧
      ((∀ commands, peer ∈ ((lane.handleControl (.addPeer peer false)).obey peer
        commands).matching dispatch ↔ group ∈ joined commands) ↔ isUtf8 group = true) ∧
      ∀ (submitter : FanOutSubmitter) (outside : FanOutPeer), submitter.mode = .group →
        outside.lane = none → outside.fanoutActive = true → outside.anyGroups = false →
        ((∀ commands, submitter.selects dispatch { outside with groups := kept commands } = true ↔
          group ∈ joined commands) ↔ isUtf8 group = true) := by
  have two : message.len = 2 := by rw [← message.length_parts, parts]; rfl
  refine ⟨⟨message, group, some (fromUtf8Lossy group)⟩, ?_, ?_, ?_⟩
  · simp [LaneDispatch.prepare, two, parts, Nat.not_lt.mpr short]
  · have selected commands : peer ∈ ((lane.handleControl (.addPeer peer false)).obey peer
        commands).matching ⟨message, group, some (fromUtf8Lossy group)⟩ ↔
        fromUtf8Lossy group ∈ kept commands := by
      rw [obey_eq]
      simp only [handleControl, modifyPeer, matching, radio, peerMatches]
      simp [kept]
      grind
    simp only [selected]
    exact mem_kept_iff group
  · intro submitter outside mode_eq off_lane serves no_any
    simp only [FanOutSubmitter.selects, mode_eq, off_lane, serves, peerMatches, no_any]
    simpa using mem_kept_iff group

end

/-- The worker of a RADIO socket. -/
def radio : LaneWorker Bool :=
  { publisher with mode := .group }

def grouped (group : Bytes) : Message :=
  .multi [.fromBytes group, .fromBytes [1]]

theorem selected_by_ascii : ∃ dispatch,
    LaneDispatch.prepare .group (grouped [65]) = .ok dispatch ∧
      ∀ commands, true ∈ (@obey _ _ .storing (@handleControl _ _ .storing radio
        (.addPeer true false)) true commands).matching dispatch ↔
          [65] ∈ joined commands := by
  obtain ⟨dispatch, prepared, exactly, -⟩ := @selected_exactly_iff _ _ .storing radio true rfl
    (by decide +kernel) (grouped [65]) [65] [1] rfl (by decide)
  exact ⟨dispatch, prepared, exactly.mpr (by decide)⟩

/-- A peer which joined a replacement character is selected by a group which is no text, and a peer
which joined that group is not. -/
theorem selected_by_replacement :
    let after group := @obey _ _ .storing (@handleControl _ _ .storing radio (.addPeer true false))
      true [.join group]
    (LaneDispatch.prepare .group (grouped [0xFF])).toOption.any (fun dispatch =>
      (after [0xEF, 0xBF, 0xBD]).matching dispatch = [true] ∧
        (after [0xFF]).matching dispatch = []) := by
  decide +kernel

end LaneWorker

end Omq
