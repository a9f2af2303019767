import ActonService.Lib.FiniteMaps
import ActonService.Lib.Run

/-!
# Rooms

The room manager of `websocket/rooms.rs`.  It keeps the members of every room and, for every
connection, the rooms it is in.  Its messages are handled one after the other.  Times and the
metadata of a room are left out; nothing reads them.

## Main definitions

* `RoomManagerState` — the state of the actor.
* `joinRoom`, `leaveRoom`, `disconnect` — the handlers that change it.
* `roomInfo` — a handler that reads it.
* `RoomsInv` — both maps say the same, and the limits are kept.

## Main results

* `rooms_consistent` — **the two maps are inverse to each other and within the limits in every
  reachable state.**
-/

namespace ActonService

open Run

/-! ### Data -/

/-- `RoomId` -/
structure RoomId where
  id : String
  deriving DecidableEq, Repr

/-- `ConnectionId` -/
structure ConnectionId where
  uuid : BitVec 128
  deriving DecidableEq, Repr

/-- `RoomMember`, with the channel `S` to its connection. -/
structure RoomMember (S : Type) where
  connectionId : ConnectionId
  sender : S
  deriving DecidableEq

/-- `Room` -/
structure Room (S : Type) where
  id : RoomId
  members : FiniteMap ConnectionId (RoomMember S)

/-- `RoomConfig`, as far as the manager reads it. -/
structure RoomConfig where
  maxMembers : ℕ
  maxRoomsPerConnection : ℕ

/-- `RoomManagerState` -/
structure RoomManagerState (S : Type) where
  rooms : FiniteMap RoomId (Room S)
  connectionRooms : FiniteMap ConnectionId (Finset RoomId)
  maxMembersPerRoom : ℕ
  maxRoomsPerConnection : ℕ

variable {S : Type}

/-- `Room::new` -/
def Room.new (id : RoomId) : Room S := ⟨id, ∅⟩

/-- `member_count` -/
def Room.memberCount (room : Room S) : ℕ := room.members.keys.card

/-- `is_empty` -/
def Room.isEmpty (room : Room S) : Bool := room.memberCount = 0

/-- The state the actor is spawned with. -/
def RoomManagerState.spawn (config : RoomConfig) : RoomManagerState S :=
  ⟨∅, ∅, config.maxMembers, config.maxRoomsPerConnection⟩

/-! ### Messages -/

/-- `JoinRoomRequest` -/
structure JoinRoomRequest (S : Type) where
  roomId : RoomId
  member : RoomMember S

/-- What a join has come to, as it is logged. -/
inductive JoinOutcome
  | atRoomLimit
  | atCapacity
  | joined
  deriving DecidableEq, Repr

/-- The handler of `JoinRoomRequest`. -/
def joinRoom (s : RoomManagerState S) (request : JoinRoomRequest S) :
    RoomManagerState S × JoinOutcome :=
  let connectionId := request.member.connectionId
  let connectionRooms := (s.connectionRooms.lookup connectionId).getD ∅
  let s := { s with connectionRooms := s.connectionRooms.insert connectionId connectionRooms }
  if s.maxRoomsPerConnection ≤ connectionRooms.card then (s, .atRoomLimit)
  else
    let room := (s.rooms.lookup request.roomId).getD (Room.new request.roomId)
    let s := { s with rooms := s.rooms.insert request.roomId room }
    if s.maxMembersPerRoom ≤ room.memberCount then (s, .atCapacity)
    else
      let room := { room with members := room.members.insert connectionId request.member }
      ({ s with
          rooms := s.rooms.insert request.roomId room
          connectionRooms :=
            s.connectionRooms.insert connectionId (insert request.roomId connectionRooms) },
        .joined)

/-- A room without a member, unless nobody is left. -/
def Room.without (connectionId : ConnectionId) (room : Room S) : Option (Room S) :=
  let room := { room with members := room.members.erase connectionId }
  if room.isEmpty then none else some room

/-- The handler of `LeaveRoomRequest`. -/
def leaveRoom (s : RoomManagerState S) (roomId : RoomId) (connectionId : ConnectionId) :
    RoomManagerState S :=
  { s with
    rooms := FiniteMap.alter (Room.without connectionId) s.rooms roomId
    connectionRooms :=
      FiniteMap.alter (fun rooms => some (rooms.erase roomId)) s.connectionRooms connectionId }

/-- The handler of `ConnectionDisconnected`. -/
def disconnect (s : RoomManagerState S) (connectionId : ConnectionId) : RoomManagerState S :=
  match s.connectionRooms.lookup connectionId with
  | none => s
  | some roomIds =>
    { s with
      rooms := roomIds.val.foldl (FiniteMap.alter (Room.without connectionId)) s.rooms
      connectionRooms := s.connectionRooms.erase connectionId }

/-- The messages that change the state. -/
inductive RoomMessage (S : Type)
  | join (request : JoinRoomRequest S)
  | leave (roomId : RoomId) (connectionId : ConnectionId)
  | disconnected (connectionId : ConnectionId)

/-- A message is handled by the handler of its type. -/
def RoomManagerState.handle (s : RoomManagerState S) : RoomMessage S → RoomManagerState S
  | .join request => (joinRoom s request).1
  | .leave roomId connectionId => leaveRoom s roomId connectionId
  | .disconnected connectionId => disconnect s connectionId

/-! ### Reading the state -/

/-- `RoomInfoResponse` -/
structure RoomInfoResponse where
  roomId : RoomId
  memberCount : ℕ
  exist : Bool
  deriving DecidableEq, Repr

/-- The answer to `GetRoomInfo`. -/
def roomInfo (s : RoomManagerState S) (roomId : RoomId) : RoomInfoResponse :=
  match s.rooms.lookup roomId with
  | some room => ⟨roomId, room.memberCount, true⟩
  | none => ⟨roomId, 0, false⟩

/-! ### Memberships -/

/-- The members a map of rooms has in a room. -/
def membersIn (rooms : FiniteMap RoomId (Room S)) (roomId : RoomId) : Finset ConnectionId :=
  (rooms.lookup roomId).elim ∅ fun room => room.members.keys

/-- The members of a room: none if it does not exist. -/
def RoomManagerState.membersOf (s : RoomManagerState S) (roomId : RoomId) : Finset ConnectionId :=
  membersIn s.rooms roomId

/-- The rooms a connection is in. -/
def RoomManagerState.roomsOf (s : RoomManagerState S) (connectionId : ConnectionId) :
    Finset RoomId :=
  (s.connectionRooms.lookup connectionId).getD ∅

/-- Nobody has joined or left: each room has the members it had, and each connection its rooms. -/
structure SameMemberships (s s' : RoomManagerState S) : Prop where
  members : ∀ roomId, s'.membersOf roomId = s.membersOf roomId
  rooms : ∀ connectionId, s'.roomsOf connectionId = s.roomsOf connectionId

/-- **The invariant of the rooms**: the two tables are inverse to each other, no room is empty, and
both limits are kept. -/
structure RoomsInv (config : RoomConfig) (s : RoomManagerState S) : Prop where
  maxMembers : s.maxMembersPerRoom = config.maxMembers
  maxRooms : s.maxRoomsPerConnection = config.maxRoomsPerConnection
  inverse : ∀ connectionId roomId,
    connectionId ∈ s.membersOf roomId ↔ roomId ∈ s.roomsOf connectionId
  members : ∀ roomId room, s.rooms.lookup roomId = some room →
    1 ≤ room.memberCount ∧ room.memberCount ≤ config.maxMembers
  rooms : ∀ connectionId, (s.roomsOf connectionId).card ≤ config.maxRoomsPerConnection

section Handlers

variable {config : RoomConfig} {s : RoomManagerState S} {rooms : FiniteMap RoomId (Room S)}
  {connectionId other : ConnectionId} {roomId roomId' : RoomId} {room : Room S}

theorem membersIn_insert (rooms : FiniteMap RoomId (Room S)) (roomId roomId' : RoomId)
    (room : Room S) : membersIn (rooms.insert roomId room) roomId'
      = if roomId' = roomId then room.members.keys else membersIn rooms roomId' := by
  by_cases hsame : roomId' = roomId
  · subst hsame
    rw [if_pos rfl, membersIn, Finmap.lookup_insert]
    rfl
  · rw [if_neg hsame, membersIn, Finmap.lookup_insert_of_ne _ hsame]
    rfl

/-- The members of a room that one has left. -/
theorem elim_bind_without (room? : Option (Room S)) (connectionId : ConnectionId) :
    (room?.bind (Room.without connectionId)).elim ∅ (fun room => room.members.keys)
      = (room?.elim ∅ fun room => room.members.keys).erase connectionId := by
  cases room? with
  | none => rfl
  | some room =>
    rw [Option.bind_some, Room.without]
    by_cases hempty : (⟨room.id, room.members.erase connectionId⟩ : Room S).isEmpty = true
    · have hkeys : (room.members.erase connectionId).keys = ∅ := by
        simpa [Room.isEmpty, Room.memberCount] using hempty
      rw [if_pos hempty]
      show ∅ = room.members.keys.erase connectionId
      rw [← Finmap.keys_erase, hkeys]
    · rw [if_neg hempty]
      exact Finmap.keys_erase _ _

/-- A room that is left has been there, and has members left. -/
theorem exists_of_without {room' : Room S} (h : room.without connectionId = some room') :
    1 ≤ room'.memberCount ∧ room'.memberCount ≤ room.memberCount := by
  rw [Room.without] at h
  split at h
  · contradiction
  · next hempty =>
    cases h
    refine ⟨?_, ?_⟩
    · simpa [Room.isEmpty, Nat.one_le_iff_ne_zero] using hempty
    · rw [Room.memberCount, Room.memberCount, Finmap.keys_erase]
      exact Finset.card_erase_le

theorem roomsOf_insert (connectionRooms : FiniteMap ConnectionId (Finset RoomId))
    (connectionId other : ConnectionId) (roomIds : Finset RoomId) :
    ((connectionRooms.insert connectionId roomIds).lookup other).getD ∅
      = if other = connectionId then roomIds else (connectionRooms.lookup other).getD ∅ := by
  by_cases hsame : other = connectionId
  · subst hsame
    rw [if_pos rfl, Finmap.lookup_insert]
    rfl
  · rw [if_neg hsame, Finmap.lookup_insert_of_ne _ hsame]

/-- The room with an identifier, or a new one. -/
def RoomManagerState.roomOrNew (s : RoomManagerState S) (roomId : RoomId) : Room S :=
  (s.rooms.lookup roomId).getD (Room.new roomId)

theorem keys_roomOrNew (s : RoomManagerState S) (roomId : RoomId) :
    (s.roomOrNew roomId).members.keys = s.membersOf roomId := by
  rw [RoomManagerState.roomOrNew, RoomManagerState.membersOf, membersIn]
  cases s.rooms.lookup roomId <;> rfl

/-- **What a join can do**: refuse a connection that is in too many rooms, refuse a room that is
full, or write both tables. -/
theorem joinRoom_cases (s : RoomManagerState S) (request : JoinRoomRequest S) :
    (s.maxRoomsPerConnection ≤ (s.roomsOf request.member.connectionId).card ∧
      joinRoom s request = ({ s with
        connectionRooms := s.connectionRooms.insert request.member.connectionId
          (s.roomsOf request.member.connectionId) }, .atRoomLimit)) ∨
    (s.maxMembersPerRoom ≤ (s.membersOf request.roomId).card ∧
      joinRoom s request = ({ s with
        rooms := s.rooms.insert request.roomId (s.roomOrNew request.roomId)
        connectionRooms := s.connectionRooms.insert request.member.connectionId
          (s.roomsOf request.member.connectionId) }, .atCapacity)) ∨
    ((s.roomsOf request.member.connectionId).card < s.maxRoomsPerConnection ∧
      (s.membersOf request.roomId).card < s.maxMembersPerRoom ∧
      ∃ room : Room S,
        room.members.keys = insert request.member.connectionId (s.membersOf request.roomId) ∧
        joinRoom s request = ({ s with
          rooms := s.rooms.insert request.roomId room
          connectionRooms := s.connectionRooms.insert request.member.connectionId
            (insert request.roomId (s.roomsOf request.member.connectionId)) }, .joined)) := by
  -- the checks in the order of the source: the rooms of the connection, then the members of the
  -- room
  by_cases hlimit : s.maxRoomsPerConnection ≤ (s.roomsOf request.member.connectionId).card
  · exact .inl ⟨hlimit, if_pos hlimit⟩
  by_cases hfull : s.maxMembersPerRoom ≤ (s.membersOf request.roomId).card
  · have hroom : s.maxMembersPerRoom ≤ (s.roomOrNew request.roomId).memberCount := by
      rw [Room.memberCount, keys_roomOrNew]
      exact hfull
    exact .inr (.inl ⟨hfull, (if_neg hlimit).trans (if_pos hroom)⟩)
  · have hroom : ¬s.maxMembersPerRoom ≤ (s.roomOrNew request.roomId).memberCount := by
      rw [Room.memberCount, keys_roomOrNew]
      exact hfull
    -- the member joins, and both tables are written twice, the second time with the member
    let room := s.roomOrNew request.roomId
    let members := room.members.insert request.member.connectionId request.member
    have hjoin : joinRoom s request = ({ s with
        rooms := (s.rooms.insert request.roomId room).insert request.roomId { room with members }
        connectionRooms := (s.connectionRooms.insert request.member.connectionId
          (s.roomsOf request.member.connectionId)).insert request.member.connectionId
            (insert request.roomId (s.roomsOf request.member.connectionId)) }, .joined) :=
      (if_neg hlimit).trans (if_neg hroom)
    refine .inr (.inr ⟨Nat.not_le.mp hlimit, Nat.not_le.mp hfull, { room with members }, ?_, ?_⟩)
    · rw [← keys_roomOrNew]
      exact FiniteMap.keys_insert _ _ _
    · rw [hjoin, Finmap.insert_insert, Finmap.insert_insert]

/-- A join leaves the limits the manager was configured with. -/
theorem joinRoom_limits (s : RoomManagerState S) (request : JoinRoomRequest S) :
    (joinRoom s request).1.maxMembersPerRoom = s.maxMembersPerRoom ∧
      (joinRoom s request).1.maxRoomsPerConnection = s.maxRoomsPerConnection := by
  rcases joinRoom_cases s request with ⟨-, heq⟩ | ⟨-, heq⟩ | ⟨-, -, room, -, heq⟩
  · rw [heq]
    exact ⟨rfl, rfl⟩
  · rw [heq]
    exact ⟨rfl, rfl⟩
  · rw [heq]
    exact ⟨rfl, rfl⟩

/-- **A join that is refused** changes no membership. -/
theorem sameMemberships_of_refused (hmax : 1 ≤ s.maxMembersPerRoom) {request : JoinRoomRequest S}
    (h : (joinRoom s request).2 ≠ .joined) :
    (joinRoom s request).1.rooms = s.rooms ∧ SameMemberships s (joinRoom s request).1 := by
  have hrooms : ∀ other, ((s.connectionRooms.insert request.member.connectionId
      (s.roomsOf request.member.connectionId)).lookup other).getD ∅ = s.roomsOf other := by
    intro other
    rw [roomsOf_insert]
    split
    · next hsame => rw [hsame]
    · rfl
  rcases joinRoom_cases s request with ⟨-, heq⟩ | ⟨hfull, heq⟩ | ⟨-, -, room, -, heq⟩
  · rw [heq]
    exact ⟨rfl, fun _ => rfl, hrooms⟩
  · rw [heq]
    have hsame : s.rooms.insert request.roomId (s.roomOrNew request.roomId) = s.rooms := by
      -- a new room would have had a place
      cases hroom : s.rooms.lookup request.roomId with
      | none =>
        have hempty : s.membersOf request.roomId = ∅ := by
          rw [RoomManagerState.membersOf, membersIn, hroom]
          rfl
        rw [hempty, Finset.card_empty] at hfull
        omega
      | some room =>
        rw [RoomManagerState.roomOrNew, hroom]
        exact FiniteMap.insert_lookup hroom
    refine ⟨hsame, fun roomId => ?_, hrooms⟩
    rw [RoomManagerState.membersOf, hsame]
    rfl
  · rw [heq] at h
    exact absurd rfl h

/-- The members of the rooms after one has left some of them. -/
theorem membersIn_foldl_without (roomIds : Finset RoomId) (rooms : FiniteMap RoomId (Room S))
    (connectionId : ConnectionId) (roomId : RoomId) :
    membersIn (roomIds.val.foldl (FiniteMap.alter (Room.without connectionId)) rooms) roomId
      = if roomId ∈ roomIds then (membersIn rooms roomId).erase connectionId
        else membersIn rooms roomId := by
  rw [membersIn, FiniteMap.lookup_foldl_alter]
  split
  · exact elim_bind_without _ _
  · rfl

/-- The members of the rooms after one is left. -/
theorem membersOf_leaveRoom (s : RoomManagerState S) (roomId : RoomId)
    (connectionId : ConnectionId) (roomId' : RoomId) :
    (leaveRoom s roomId connectionId).membersOf roomId'
      = if roomId' = roomId then (s.membersOf roomId').erase connectionId
        else s.membersOf roomId' := by
  show membersIn (FiniteMap.alter _ s.rooms roomId) roomId' = _
  rw [membersIn, FiniteMap.lookup_alter]
  split
  · next hsame =>
    rw [hsame]
    exact elim_bind_without _ _
  · rfl

/-- The rooms of the connections after one is left. -/
theorem roomsOf_leaveRoom (s : RoomManagerState S) (roomId : RoomId)
    (connectionId other : ConnectionId) :
    (leaveRoom s roomId connectionId).roomsOf other
      = if other = connectionId then (s.roomsOf other).erase roomId else s.roomsOf other := by
  show ((FiniteMap.alter _ s.connectionRooms connectionId).lookup other).getD ∅ = _
  rw [FiniteMap.lookup_alter]
  split
  · next hsame =>
    rw [hsame, RoomManagerState.roomsOf]
    cases s.connectionRooms.lookup connectionId with
    | none => exact (Finset.erase_empty _).symm
    | some roomIds => rfl
  · rfl

/-- The members of the rooms after a connection has gone. -/
theorem membersOf_disconnect (s : RoomManagerState S) (connectionId : ConnectionId)
    (roomId : RoomId) : (disconnect s connectionId).membersOf roomId
      = if roomId ∈ s.roomsOf connectionId then (s.membersOf roomId).erase connectionId
        else s.membersOf roomId := by
  rw [disconnect, RoomManagerState.roomsOf]
  cases s.connectionRooms.lookup connectionId with
  | none => rfl
  | some roomIds => exact membersIn_foldl_without roomIds s.rooms connectionId roomId

/-- The rooms of the connections after one has gone. -/
theorem roomsOf_disconnect (s : RoomManagerState S) (connectionId other : ConnectionId) :
    (disconnect s connectionId).roomsOf other
      = if other = connectionId then ∅ else s.roomsOf other := by
  rw [disconnect]
  cases hfound : s.connectionRooms.lookup connectionId with
  | none =>
    show s.roomsOf other = _
    split
    · next hsame =>
      rw [hsame, RoomManagerState.roomsOf, hfound]
      rfl
    · rfl
  | some roomIds =>
    show ((s.connectionRooms.erase connectionId).lookup other).getD ∅ = _
    by_cases hsame : other = connectionId
    · subst hsame
      rw [if_pos rfl, Finmap.lookup_erase]
      rfl
    · rw [if_neg hsame, Finmap.lookup_erase_ne hsame]
      rfl

/-- Every room has members, and not too many. -/
def WithinCapacity (config : RoomConfig) (rooms : FiniteMap RoomId (Room S)) : Prop :=
  ∀ roomId room, rooms.lookup roomId = some room →
    1 ≤ room.memberCount ∧ room.memberCount ≤ config.maxMembers

/-- Rooms that are left keep to the limit. -/
theorem WithinCapacity.of_without {rooms' : FiniteMap RoomId (Room S)}
    (connectionId : ConnectionId) (h : WithinCapacity config rooms)
    (hleft : ∀ roomId, rooms'.lookup roomId = rooms.lookup roomId ∨
      rooms'.lookup roomId = (rooms.lookup roomId).bind (Room.without connectionId)) :
    WithinCapacity config rooms' := by
  intro roomId room hroom
  rcases hleft roomId with hsame | hbind
  · exact h roomId room (hsame ▸ hroom)
  · rw [hbind, Option.bind_eq_some_iff] at hroom
    obtain ⟨before, hbefore, hwithout⟩ := hroom
    have hcount := exists_of_without hwithout
    exact ⟨hcount.1, hcount.2.trans (h roomId before hbefore).2⟩

/-- A connection that has joined a room: there was a place for it, and it had not too many. -/
theorem RoomsInv.joined (h : RoomsInv config s) {roomId : RoomId} {connectionId : ConnectionId}
    {room : Room S} (hlimit : (s.roomsOf connectionId).card < s.maxRoomsPerConnection)
    (hfull : (s.membersOf roomId).card < s.maxMembersPerRoom)
    (hkeys : room.members.keys = insert connectionId (s.membersOf roomId)) :
    RoomsInv config { s with
      rooms := s.rooms.insert roomId room
      connectionRooms := s.connectionRooms.insert connectionId
        (insert roomId (s.roomsOf connectionId)) } := by
  refine ⟨h.maxMembers, h.maxRooms, fun other roomId' => ?_, fun roomId' room' hroom => ?_,
    fun other => ?_⟩
  · show other ∈ membersIn (s.rooms.insert _ room) roomId' ↔ roomId' ∈ (_ : Option _).getD ∅
    rw [membersIn_insert, roomsOf_insert, hkeys]
    have hinverse := h.inverse other roomId'
    -- four cases, as it is this room or another, and this connection or another
    by_cases hroom : roomId' = roomId
    · by_cases hconnection : other = connectionId
      · simp [hroom, hconnection]
      · rw [if_pos hroom, if_neg hconnection, Finset.mem_insert, ← hroom]
        exact (or_iff_right hconnection).trans hinverse
    · by_cases hconnection : other = connectionId
      · rw [if_neg hroom, if_pos hconnection, Finset.mem_insert, ← hconnection]
        exact hinverse.trans (or_iff_right hroom).symm
      · rw [if_neg hroom, if_neg hconnection]
        exact hinverse
  · -- the room has one member more at most, and it had room for one
    by_cases hsame : roomId' = roomId
    · subst hsame
      obtain rfl := Option.some.inj ((Finmap.lookup_insert s.rooms).symm.trans hroom)
      have hcard := Finset.card_insert_le connectionId (s.membersOf roomId')
      have hmax := h.maxMembers
      rw [Room.memberCount, hkeys]
      exact ⟨Finset.card_pos.mpr (Finset.insert_nonempty _ _), by omega⟩
    · exact h.members roomId' room' ((Finmap.lookup_insert_of_ne _ hsame).symm.trans hroom)
  · show ((_ : Option _).getD ∅ : Finset RoomId).card ≤ _
    rw [roomsOf_insert]
    split
    · -- the same for the rooms of the connection
      have hcard := Finset.card_insert_le roomId (s.roomsOf connectionId)
      have hmax := h.maxRooms
      omega
    · exact h.rooms other

/-- **A join keeps what holds of the rooms.** -/
theorem RoomsInv.join (h : RoomsInv config s) (hmax : 1 ≤ config.maxMembers)
    (request : JoinRoomRequest S) : RoomsInv config (joinRoom s request).1 := by
  by_cases hjoined : (joinRoom s request).2 = .joined
  · rcases joinRoom_cases s request with ⟨-, heq⟩ | ⟨-, heq⟩ | ⟨hlimit, hfull, room, hkeys, heq⟩
    · rw [heq] at hjoined
      contradiction
    · rw [heq] at hjoined
      contradiction
    · rw [heq]
      exact h.joined hlimit hfull hkeys
  · -- a refused join may leave an empty set behind, but nobody in or out of a room
    have hmembers : 1 ≤ s.maxMembersPerRoom := h.maxMembers ▸ hmax
    obtain ⟨hrooms, hsame⟩ := sameMemberships_of_refused hmembers hjoined
    obtain ⟨hmaxMembers, hmaxRooms⟩ := joinRoom_limits s request
    refine ⟨hmaxMembers.trans h.maxMembers, hmaxRooms.trans h.maxRooms,
      fun connectionId roomId => ?_, hrooms ▸ h.members, fun connectionId => ?_⟩
    · rw [hsame.members, hsame.rooms]
      exact h.inverse connectionId roomId
    · rw [hsame.rooms]
      exact h.rooms connectionId

/-- **Leaving a room keeps what holds of the rooms.** -/
theorem RoomsInv.leave (h : RoomsInv config s) (roomId : RoomId) (connectionId : ConnectionId) :
    RoomsInv config (leaveRoom s roomId connectionId) := by
  refine ⟨h.maxMembers, h.maxRooms, fun other roomId' => ?_, ?_, fun other => ?_⟩
  · have hinverse := h.inverse other roomId'
    rw [membersOf_leaveRoom, roomsOf_leaveRoom]
    by_cases hroom : roomId' = roomId
    · by_cases hconnection : other = connectionId
      · simp [hroom, hconnection]
      · rw [if_pos hroom, if_neg hconnection, Finset.mem_erase]
        exact (and_iff_right hconnection).trans hinverse
    · by_cases hconnection : other = connectionId
      · rw [if_neg hroom, if_pos hconnection, Finset.mem_erase]
        exact hinverse.trans (and_iff_right hroom).symm
      · rw [if_neg hroom, if_neg hconnection]
        exact hinverse
  · refine WithinCapacity.of_without connectionId h.members fun roomId' => ?_
    rw [leaveRoom, FiniteMap.lookup_alter]
    split
    · next hsame => exact .inr (by rw [hsame])
    · exact .inl rfl
  · rw [roomsOf_leaveRoom]
    split
    · exact Finset.card_erase_le.trans (h.rooms other)
    · exact h.rooms other

/-- **A connection that has gone** is in no room, and the others are where they were. -/
theorem RoomsInv.membersOf_disconnect (h : RoomsInv config s) (connectionId : ConnectionId)
    (roomId : RoomId) :
    (disconnect s connectionId).membersOf roomId = (s.membersOf roomId).erase connectionId := by
  rw [ActonService.membersOf_disconnect]
  split
  · rfl
  · next hroom =>
    rw [Finset.erase_eq_of_notMem]
    exact fun hmember => hroom ((h.inverse connectionId roomId).mp hmember)

/-- **A connection that goes keeps what holds of the rooms.** -/
theorem RoomsInv.disconnect (h : RoomsInv config s) (connectionId : ConnectionId) :
    RoomsInv config (disconnect s connectionId) := by
  have hlimits : (ActonService.disconnect s connectionId).maxMembersPerRoom
        = s.maxMembersPerRoom ∧
      (ActonService.disconnect s connectionId).maxRoomsPerConnection
        = s.maxRoomsPerConnection := by
    rw [ActonService.disconnect]
    split
    · exact ⟨rfl, rfl⟩
    · exact ⟨rfl, rfl⟩
  refine ⟨hlimits.1.trans h.maxMembers, hlimits.2.trans h.maxRooms, fun other roomId => ?_, ?_,
    fun other => ?_⟩
  · rw [h.membersOf_disconnect, roomsOf_disconnect, Finset.mem_erase]
    by_cases hconnection : other = connectionId
    · simp [hconnection]
    · rw [if_neg hconnection]
      exact (and_iff_right hconnection).trans (h.inverse other roomId)
  · refine WithinCapacity.of_without connectionId h.members fun roomId => ?_
    rw [ActonService.disconnect]
    split
    · exact .inl rfl
    · rw [FiniteMap.lookup_foldl_alter]
      split
      · exact .inr rfl
      · exact .inl rfl
  · rw [roomsOf_disconnect]
    split
    · exact Nat.zero_le _
    · exact h.rooms other

/-- **A message keeps what holds of the rooms.** -/
theorem RoomsInv.handle (h : RoomsInv config s) (hmax : 1 ≤ config.maxMembers)
    (message : RoomMessage S) : RoomsInv config (s.handle message) := by
  cases message with
  | join request => exact h.join hmax request
  | leave roomId connectionId => exact h.leave roomId connectionId
  | disconnected connectionId => exact h.disconnect connectionId

/-- The manager is spawned without rooms, and so the invariant holds. -/
theorem roomsInv_spawn (config : RoomConfig) : RoomsInv (S := S) config (.spawn config) := by
  refine ⟨rfl, rfl, fun connectionId roomId => ?_, fun roomId room hroom => ?_, fun _ => ?_⟩
  · exact iff_of_false (Finset.notMem_empty _) (Finset.notMem_empty _)
  · contradiction
  · exact Nat.zero_le _

/-- What is answered about a room: the number of its members, and that it exists if there are any.
-/
theorem RoomsInv.roomInfo (h : RoomsInv config s) (roomId : RoomId) :
    (roomInfo s roomId).memberCount = (s.membersOf roomId).card ∧
      ((roomInfo s roomId).exist = true ↔ (s.membersOf roomId).Nonempty) := by
  rw [ActonService.roomInfo, RoomManagerState.membersOf, membersIn]
  cases hroom : s.rooms.lookup roomId with
  | none => simp
  | some room =>
    have hcount := (h.members roomId room hroom).1
    exact ⟨rfl, iff_of_true rfl (Finset.card_pos.mp hcount)⟩

end Handlers

/-- A connection has gone, and the others are where they were. -/
structure HasGone (connectionId : ConnectionId) (s s' : RoomManagerState S) : Prop where
  nowhere : ∀ roomId, connectionId ∉ s'.membersOf roomId
  members : ∀ other, other ≠ connectionId →
    ∀ roomId, other ∈ s'.membersOf roomId ↔ other ∈ s.membersOf roomId
  rooms : ∀ other, other ≠ connectionId → s'.roomsOf other = s.roomsOf other

/-- **The rooms are consistent**, whatever messages there have been: the members of the rooms and
the rooms of the connections say the same, and the limits are kept.  A join that is refused changes
no membership, and a connection that disconnects is in no room any more while the others stay where
they are. -/
theorem rooms_consistent (config : RoomConfig) (hmax : 1 ≤ config.maxMembers)
    {s : RoomManagerState S}
    (h : Reach RoomManagerState.handle (fun _ _ => True) (.spawn config) s) :
    RoomsInv config s ∧
      (∀ request, (joinRoom s request).2 ≠ .joined →
        SameMemberships s (joinRoom s request).1) ∧
      ∀ connectionId, HasGone connectionId s (disconnect s connectionId) := by
  have hinv : RoomsInv config s :=
    h.invariant (roomsInv_spawn config) fun s message hs _ => hs.handle hmax message
  refine ⟨hinv, fun request hrefused => ?_, fun connectionId => ⟨?_, ?_, ?_⟩⟩
  · exact (sameMemberships_of_refused (hinv.maxMembers ▸ hmax) hrefused).2
  · intro roomId
    rw [hinv.membersOf_disconnect]
    exact Finset.notMem_erase _ _
  · intro other hother roomId
    rw [hinv.membersOf_disconnect, Finset.mem_erase]
    exact and_iff_right hother
  · intro other hother
    rw [roomsOf_disconnect, if_neg hother]

/-! ### Samples -/

/-- A connection whose channel is its number. -/
def sampleMember (uuid : BitVec 128) : RoomMember (BitVec 128) := ⟨⟨uuid⟩, uuid⟩

/-- Two connections fill a room, a third finds no place, and the first goes. -/
def sampleRoomMessages : List (RoomMessage (BitVec 128)) :=
  [.join ⟨⟨"lobby"⟩, sampleMember 1⟩, .join ⟨⟨"lobby"⟩, sampleMember 2⟩,
    .join ⟨⟨"lobby"⟩, sampleMember 3⟩, .join ⟨⟨"news"⟩, sampleMember 1⟩,
    .leave ⟨"lobby"⟩ ⟨3⟩, .disconnected ⟨1⟩]

theorem rooms_consistent_sample :
    (sampleRoomMessages.foldl RoomManagerState.handle (.spawn ⟨2, 2⟩)).membersOf ⟨"lobby"⟩
      = {⟨2⟩} ∧
    RoomsInv ⟨2, 2⟩ (sampleRoomMessages.foldl RoomManagerState.handle (.spawn ⟨2, 2⟩)) :=
  have hrun := Reach.start.foldl (Allowed.of_forall (fun _ _ _ => trivial) _)
  ⟨by decide, (rooms_consistent ⟨2, 2⟩ (by decide) hrun).1⟩

end ActonService
