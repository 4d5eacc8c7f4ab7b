import Mathlib.Logic.Function.Basic

/-! # Errors, results and channels

The router talks to the rest of the client only through channels. The channel
types of `crate::client::sync` and the error type `crate::Error` are not among
the sources, so they are modelled from the spec: a channel is identified by a
number that its sender carries, and what a sender can observe of it is the
list of values enqueued so far and whether the receiver has been dropped. -/

namespace TendermintRpc

/-- Modelled from the spec: `crate::Error` is not among the sources. The router
builds `client_internal_error`s itself, and the driver hands transport errors
to `cancel_add` and `cancel_remove` (spec §7). -/
inductive Error where
  | clientInternalError (message : String)
  | transport
  deriving DecidableEq, Repr

/-- `crate::Result<T>`, that is `std::result::Result<T, Error>`. -/
inductive Result (α : Type) where
  | ok (value : α)
  | err (error : Error)
  deriving DecidableEq, Repr

namespace Result

def isErr : Result α → Bool
  | .ok _ => false
  | .err _ => true

def mapErr (transform : Error → Error) : Result α → Result α
  | .ok value => .ok value
  | .err error => .err (transform error)

@[simp] theorem isErr_mapErr (transform : Error → Error) (result : Result α) :
    (result.mapErr transform).isErr = result.isErr := by
  cases result <;> rfl

end Result

/-- Modelled from the spec: what the senders of one channel can observe of it,
the values enqueued so far, oldest first, and whether its receiver is gone. -/
structure Channel (α : Type) where
  enqueued : List α
  closed : Bool
  deriving DecidableEq, Repr

/-- Every channel carrying values of type `α`, by number. -/
abbrev Channels (α : Type) := Nat → Channel α

/-- The sender half of a channel: the number of the channel it sends on. -/
@[ext] structure ChannelTx (α : Type) where
  channel : Nat
  deriving Repr

instance : DecidableEq (ChannelTx α) := fun tx other =>
  decidable_of_iff (tx.channel = other.channel) ChannelTx.ext_iff.symm

namespace Channels

/-- No channel has been sent on and every receiver is alive. -/
def fresh : Channels α := fun _ => ⟨[], false⟩

/-- The consumer of channel `channel` drops its receiver. -/
def dropRx (channels : Channels α) (channel : Nat) : Channels α :=
  Function.update channels channel { channels channel with closed := true }

@[simp] theorem fresh_apply (channel : Nat) : (fresh channel : Channel α) = ⟨[], false⟩ := rfl

@[simp] theorem dropRx_enqueued (channels : Channels α) (channel other : Nat) :
    (channels.dropRx channel other).enqueued = (channels other).enqueued := by
  by_cases same : other = channel
  · subst same
    simp [dropRx]
  · simp [dropRx, same]

@[simp] theorem dropRx_closed (channels : Channels α) (channel other : Nat) :
    (channels.dropRx channel other).closed = (other = channel || (channels other).closed) := by
  by_cases same : other = channel
  · subst same
    simp [dropRx]
  · simp [dropRx, same]

end Channels

namespace ChannelTx

/-- The internal error a send on a channel whose receiver is gone reports
(spec §5 and §7). `crate::client::sync` is not among the sources, so the text
of the message is this model's. -/
def sendError : Error := .clientInternalError "failed to send message to internal channel"

/-- Modelled from the spec: `ChannelTx::send`. An unbounded channel never
blocks and a bounded one waits for capacity, so a send fails only when the
receiver is gone, with an internal error; otherwise the value is enqueued
behind the earlier ones. -/
def send (tx : ChannelTx α) (channels : Channels α) (value : α) : Channels α × Result Unit :=
  if (channels tx.channel).closed then (channels, .err sendError)
  else
    (Function.update channels tx.channel
      { channels tx.channel with enqueued := (channels tx.channel).enqueued ++ [value] },
      .ok ())

variable (tx : ChannelTx α) (channels : Channels α) (value : α)

@[simp] theorem send_result :
    (tx.send channels value).2 =
      if (channels tx.channel).closed then .err sendError else .ok () := by
  unfold send
  split <;> rfl

@[simp] theorem send_closed (other : Nat) :
    ((tx.send channels value).1 other).closed = (channels other).closed := by
  unfold send
  split
  · rfl
  · by_cases same : other = tx.channel
    · subst same
      simp
    · simp [same]

@[simp] theorem send_enqueued (other : Nat) :
    ((tx.send channels value).1 other).enqueued =
      (channels other).enqueued ++
        if other = tx.channel ∧ (channels other).closed = false then [value] else [] := by
  unfold send
  by_cases same : other = tx.channel
  · subst same
    split <;> simp_all
  · split <;> simp [same]

end ChannelTx

end TendermintRpc
