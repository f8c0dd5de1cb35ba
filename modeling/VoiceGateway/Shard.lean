import VoiceGateway.Snowflake

/-!
# Shard routing

A gateway splits its guilds over numbered shards. The shard of a guild depends
on the high bits of the guild's id and on the number of shards only, so every
part of the system that has these two agrees on it.

> `shardOf_lt`: the shard of a guild is always one of the shards there are.
-/

namespace VoiceGateway

/-- How many low bits of an id take no part in routing. -/
def routingShift : Nat := 22

/-- The number of shards in use: a gateway set up with none still runs one. -/
def shardsInUse (count : UInt32) : UInt32 := if count = 0 then 1 else count

/-- The shard that owns a guild, as a number. -/
def shardNumber (guild : Snowflake) (count : UInt32) : Nat :=
  (guild.raw.toNat >>> routingShift) % (shardsInUse count).toNat

/-- The shard that owns a guild. -/
def shardOf (guild : Snowflake) (count : UInt32) : UInt32 :=
  (shardNumber guild count).toUInt32

theorem shardsInUse_pos (count : UInt32) : 0 < (shardsInUse count).toNat := by
  unfold shardsInUse
  split
  · decide
  · next h =>
    have : count.toNat ≠ 0 := fun e => h (UInt32.toNat_inj.mp e)
    omega

theorem shardNumber_lt (guild : Snowflake) (count : UInt32) :
    shardNumber guild count < (shardsInUse count).toNat :=
  Nat.mod_lt _ (shardsInUse_pos count)

theorem shardOf_lt (guild : Snowflake) (count : UInt32) :
    shardOf guild count < shardsInUse count := by
  have h := shardNumber_lt guild count
  have h32 := (shardsInUse count).toNat_lt
  rw [UInt32.lt_iff_toNat_lt, shardOf]
  have : (shardNumber guild count).toUInt32.toNat = shardNumber guild count := by
    rw [Nat.toUInt32_eq, UInt32.toNat_ofNat_of_lt' (by
      have : UInt32.size = 2 ^ 32 := rfl
      omega)]
  omega

end VoiceGateway
