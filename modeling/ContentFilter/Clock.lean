import ContentFilter.Calendar.Instant
import Std.Time.DateTime.Timestamp

/-!
# The clock

The present time as an instant.
-/

namespace ContentFilter

/-- The present time. -/
def Instant.present : IO Instant := do
  let t ← Std.Time.Timestamp.now
  let nanos := t.toNanosecondsSinceUnixEpoch.val
  return ⟨nanos / 1000000000, (nanos % 1000000000).toNat⟩

end ContentFilter
