/-! Powers of natural numbers. Where powers in monoids are known as well, a power of naturals is
still the built-in one. -/
namespace Promotions

instance (priority := high) natPower : Pow Nat Nat := instPowNat

end Promotions
