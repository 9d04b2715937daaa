import TunnelServer.State

/-!
# Registering channels

Channels are mapped to the identities they belong to, one at a time or all at once.  Whatever channel
an identity was mapped to before is closed, unless it is the very channel that is mapped now.
-/

namespace TunnelServer.State

variable {C : Type} [Channel C]

def close (handle : Handle) (state : State C) : State C :=
  (state.onChannel handle () fun channel => (Channel.close channel, ())).1

/-- Maps a channel to its identity and gives the other channel, now closed, that was mapped to it. -/
def install (handle : Handle) (state : State C) : State C × Option Handle :=
  match state.channels[handle]? with
  | none => (state, none)
  | some channel =>
    let identity := Channel.identity channel
    let mapped := { state with registry := state.registry.insert identity handle }
    match state.registry.lookup identity with
    | none => (mapped, none)
    | some previous =>
      if previous = handle then (mapped, none) else (mapped.close previous, some previous)

/-- Maps a channel to its identity and connects it to a peer.  If the channel refuses, the mapping
stays and the refusal is given. -/
def installOrReplace (handle : Handle) (sink : Sink) (peer : SocketAddress) (state : State C) :
    State C × Except ChannelError (Option Handle) :=
  let (state, replaced) := state.install handle
  let (state, attached) :=
    state.onChannel handle (.ok ()) (Channel.attach state.clock sink peer)
  match attached with
  | .ok () => (state, .ok replaced)
  | .error error => (state, .error error)

/-- Unmaps an identity and gives the channel, now closed, that was mapped to it. -/
def remove (identity : Identity) (state : State C) : State C × Option Handle :=
  match state.registry.lookup identity with
  | none => (state, none)
  | some handle =>
    ({ state with registry := state.registry.erase identity }.close handle, some handle)

/-- The identities that channels belong to. -/
def identitiesOf (handles : List Handle) (state : State C) : List Identity :=
  handles.filterMap fun handle => state.channels[handle]?.map Channel.identity

/-- Maps one channel after the other. -/
def installEach (handles : List Handle) (state : State C) : State C :=
  handles.foldl (fun state handle => (state.install handle).1) state

/-- Unmaps one identity after the other. -/
def removeEach (identities : List Identity) (state : State C) : State C :=
  identities.foldl (fun state identity => (state.remove identity).1) state

/-- Replaces the whole mapping by that of some channels; of two with one identity the later stays.
Identities are swapped in place, and those that no channel has are unmapped at the end.  Gives the
number of identities mapped. -/
def replaceAll (handles : List Handle) (state : State C) : State C × Nat :=
  let kept := (state.identitiesOf handles).eraseDups
  let state := state.installEach handles
  let stale := state.registry.identities.filter (· ∉ kept)
  (state.removeEach stale, kept.length)

/-- How many mapped channels are connected; each of them is checked. -/
def connectedCount (state : State C) : State C × Nat :=
  state.registry.handles.foldl
    (fun (state, connected) handle =>
      let (state, live) := state.onChannel handle false (Channel.checkLive state.clock)
      (state, if live then connected + 1 else connected))
    (state, 0)

/-- Unmaps every identity; gives how many there were. -/
def removeAll (state : State C) : State C × Nat :=
  let identities := state.registry.identities
  (state.removeEach identities, identities.length)

end TunnelServer.State
