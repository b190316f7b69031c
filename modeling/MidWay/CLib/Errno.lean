import Mathlib.Tactic.Common

/-!
Contract: the `errno` values the program sets or tests.

An `errno` that is zero is `none`; `code` is the number a Linux system gives
the constant.
-/

namespace MidWay.CLib

inductive Errno where
  | ENOENT
  | EINTR
  | E2BIG
  | EAGAIN
  | ENOMEM
  | EFAULT
  | EEXIST
  | EINVAL
  | ENOSPC
  | EPIPE
  | ENOSYS
  | ELOOP
  | ENOMSG
  | EBADR
  | EBADRQC
  | ETIME
  | EPROTO
  | EBADMSG
  | EOVERFLOW
  | EILSEQ
  | EMSGSIZE
  | EADDRNOTAVAIL
  | ECONNRESET
  | ENOTCONN
  | ESHUTDOWN
  | EALREADY
  | EINPROGRESS
  | EUCLEAN
deriving DecidableEq, Repr

def Errno.code : Errno → Nat
  | .ENOENT => 2
  | .EINTR => 4
  | .E2BIG => 7
  | .EAGAIN => 11
  | .ENOMEM => 12
  | .EFAULT => 14
  | .EEXIST => 17
  | .EINVAL => 22
  | .ENOSPC => 28
  | .EPIPE => 32
  | .ENOSYS => 38
  | .ELOOP => 40
  | .ENOMSG => 42
  | .EBADR => 53
  | .EBADRQC => 56
  | .ETIME => 62
  | .EPROTO => 71
  | .EBADMSG => 74
  | .EOVERFLOW => 75
  | .EILSEQ => 84
  | .EMSGSIZE => 90
  | .EADDRNOTAVAIL => 99
  | .ECONNRESET => 104
  | .ENOTCONN => 107
  | .ESHUTDOWN => 108
  | .EALREADY => 114
  | .EINPROGRESS => 115
  | .EUCLEAN => 117

/-- The negative number a function returns for an `errno`. -/
def rcOf (errno : Errno) : Int := -errno.code

theorem rcOf_neg (errno : Errno) : rcOf errno < 0 := by
  cases errno <;> decide

end MidWay.CLib
