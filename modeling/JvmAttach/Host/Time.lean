import JvmAttach.Host.Basic

/-! Time on a host. It passes while we sleep, and what others have on the agenda for a time that
has come is done before the sleep is over. -/
namespace JvmAttach.Host

/-- Let the deeds be done whose time has come. -/
def passed (time : Duration) (h : Host) : Host :=
  let due := h.agenda.filter fun deed => deed.time ≤ time
  let later := h.agenda.filter fun deed => !decide (deed.time ≤ time)
  { h with clock := time, agenda := later, machine := due.foldl (fun m deed => deed.act m) h.machine }

/-- Deeds are kept by their time; of two at one time the older comes first. -/
def scheduled (deed : Deed) : List Deed → List Deed
  | [] => [deed]
  | first :: rest =>
    if first.time ≤ deed.time then first :: scheduled deed rest else deed :: first :: rest

def sleep (duration : Duration) (h : Host) : Host :=
  let lag := h.lags.head?.getD .zero
  passed ⟨h.clock.nanos + duration.nanos + lag.nanos⟩
    (record (.slept duration) { h with lags := h.lags.tail })

/-- The time when everything on the agenda is done. -/
def settled (h : Host) : Host :=
  h.agenda.foldl (fun h deed => passed ⟨max h.clock.nanos deed.time.nanos⟩ h) h

end JvmAttach.Host
