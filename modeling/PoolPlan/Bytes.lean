namespace PoolPlan

abbrev Bytes := List UInt8

end PoolPlan
