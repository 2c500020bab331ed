import OpcuaServer.Basic

/-!
# Revising the requested subscription parameters

The constructor and `modify` pass every requested timing parameter through the `_adjust_*`
functions. A request is a JavaScript number or `undefined`; `x || d` falls back to `d` on
`undefined` and on `0`. Publishing intervals are durations in milliseconds and may be
fractional, so they are rationals; the counts are integers of either sign. After the revision
the keep-alive count lies in `[2, 12000]` and the lifetime count is at least three keep-alive
counts, so every later comparison of the counters is against positive bounds.
-/

namespace OpcuaServer

/-- `x || d` for a number that may be omitted. -/
def orDefault {α : Type} [Zero α] [DecidableEq α] (x : Option α) (d : α) : α :=
  match x with
  | some v => if v = 0 then d else v
  | none => d

def minimumPublishingInterval : ℚ := 50
def defaultPublishingInterval : ℚ := 1000
def maximumPublishingInterval : ℚ := 1000*60*60*24*15
def minimumMaxKeepAliveCount : ℤ := 2
def maximumMaxKeepAliveCount : ℤ := 12000

def adjustPublishingInterval (publishingInterval : Option ℚ) : ℚ :=
  min (max (orDefault publishingInterval defaultPublishingInterval) minimumPublishingInterval)
    maximumPublishingInterval

def adjustMaxKeepAliveCount (maxKeepAliveCount : Option ℤ) : ℤ :=
  min (max (orDefault maxKeepAliveCount minimumMaxKeepAliveCount) minimumMaxKeepAliveCount)
    maximumMaxKeepAliveCount

/-- At least three keep-alive counts, and at least five seconds of publishing intervals. -/
def adjustLifeTimeCount (lifeTimeCount : Option ℤ) (maxKeepAliveCount : ℤ)
    (publishingInterval : ℚ) : ℤ :=
  max ⌈5*1000/publishingInterval⌉ (max (orDefault lifeTimeCount 1) (maxKeepAliveCount*3))

def adjustPublishinEnable (publishingEnabled : Option Bool) : Bool := publishingEnabled.getD true

/-- `undefined + 0` is `NaN`, and `NaN >= 0` is false, so an omitted value becomes `0`. -/
def adjustMaxNotificationsPerPublish (maxNotificationsPerPublish : Option ℤ) : ℤ :=
  match maxNotificationsPerPublish with
  | some m => if 0 ≤ m then m else 0
  | none => 0

/-- The constructor's options. -/
structure Options where
  id : ℕ := 0
  publishingInterval : Option ℚ := none
  maxKeepAliveCount : Option ℤ := none
  lifeTimeCount : Option ℤ := none
  publishingEnabled : Option Bool := none
  maxNotificationsPerPublish : Option ℤ := none

/-- The argument of `modify`: `maxNotificationsPerPublish` is copied as given, `undefined`
included. -/
structure ModifyParam where
  requestedPublishingInterval : Option ℚ := none
  requestedMaxKeepAliveCount : Option ℤ := none
  requestedLifetimeCount : Option ℤ := none
  maxNotificationsPerPublish : Option ℤ := none

theorem adjustMaxKeepAliveCount_bounds (x : Option ℤ) :
    2 ≤ adjustMaxKeepAliveCount x ∧ adjustMaxKeepAliveCount x ≤ 12000 := by
  simp only [adjustMaxKeepAliveCount, minimumMaxKeepAliveCount, maximumMaxKeepAliveCount]
  omega

theorem three_mul_le_adjustLifeTimeCount (x : Option ℤ) (k : ℤ) (p : ℚ) :
    k*3 ≤ adjustLifeTimeCount x k p := by
  simp only [adjustLifeTimeCount]
  omega

/-- The bounds the `_adjust_*` functions give the timing parameters. -/
structure RevisedTiming (publishingInterval : ℚ) (maxKeepAliveCount lifeTimeCount : ℤ) : Prop where
  interval_ge : 50 ≤ publishingInterval
  interval_le : publishingInterval ≤ 15*24*3600*1000
  keepAlive_ge : 2 ≤ maxKeepAliveCount
  keepAlive_le : maxKeepAliveCount ≤ 12000
  three_mul_le : 3 * maxKeepAliveCount ≤ lifeTimeCount
  ceil_le : ⌈5000 / publishingInterval⌉ ≤ lifeTimeCount

/-- Whatever is requested, the interval is clamped first and the counts are revised against it. -/
theorem revisedTiming_adjust (x : Option ℚ) (y z : Option ℤ) :
    RevisedTiming (adjustPublishingInterval x) (adjustMaxKeepAliveCount y)
      (adjustLifeTimeCount z (adjustMaxKeepAliveCount y) (adjustPublishingInterval x)) where
  interval_ge := le_min (le_max_right _ _) (by norm_num [minimumPublishingInterval, maximumPublishingInterval])
  interval_le := (min_le_right _ _).trans (by norm_num [maximumPublishingInterval])
  keepAlive_ge := (adjustMaxKeepAliveCount_bounds y).1
  keepAlive_le := (adjustMaxKeepAliveCount_bounds y).2
  three_mul_le := by linarith [three_mul_le_adjustLifeTimeCount z (adjustMaxKeepAliveCount y) (adjustPublishingInterval x)]
  ceil_le := by rw [adjustLifeTimeCount]; norm_num

theorem adjustMaxNotificationsPerPublish_nonneg (x : Option ℤ) :
    0 ≤ adjustMaxNotificationsPerPublish x := by
  unfold adjustMaxNotificationsPerPublish
  split
  · split_ifs <;> omega
  · exact le_rfl

end OpcuaServer
