import SolTradeRouter.Pubkey

/-!
# Constants of the SDK

The addresses and instruction discriminators of `constants.rs`. The
source gives each address as base-58 text; its thirty-two bytes stand
here, with the text in front of them.
-/

namespace Sdk

/-! ## Addresses -/

/-- Deployed router program: `CmNFUmRJL7YcnVn22oZzwG5Xg5WJqbcHEc6BK5mzDNR8`. -/
def programId : Pubkey :=
  ⟨[174, 206, 35, 138, 25, 11, 84, 25, 31, 17, 149, 46, 98, 120, 161, 37, 192, 2,
     11, 208, 129, 76, 197, 163, 142, 113, 254, 43, 165, 79, 169, 91], rfl⟩

/-- `So11111111111111111111111111111111111111112`. -/
def wsolMint : Pubkey :=
  ⟨[6, 155, 136, 87, 254, 171, 129, 132, 251, 104, 127, 99, 70, 24, 192, 53, 218,
     196, 57, 220, 26, 235, 59, 85, 152, 160, 240, 0, 0, 0, 0, 1], rfl⟩

/-- `EPjFWdd5AufqSSqeM2qN1xzybapC8G4wEGGkZwyTDt1v`. -/
def usdcMint : Pubkey :=
  ⟨[198, 250, 122, 243, 190, 219, 173, 58, 61, 101, 243, 106, 171, 201, 116, 49,
     177, 187, 228, 194, 210, 246, 224, 228, 124, 166, 2, 3, 69, 47, 93, 97], rfl⟩

/-- `TokenkegQfeZyiNwAJbNbGKPFXCWuBvf9Ss623VQ5DA`. -/
def tokenProgram : Pubkey :=
  ⟨[6, 221, 246, 225, 215, 101, 161, 147, 217, 203, 225, 70, 206, 235, 121, 172,
     28, 180, 133, 237, 95, 91, 55, 145, 58, 140, 245, 133, 126, 255, 0, 169], rfl⟩

/-- `TokenzQdBNbLqP5VEhdkAS6EPFLC1PHnBqCXEpPxuEb`. -/
def token2022Program : Pubkey :=
  ⟨[6, 221, 246, 225, 238, 117, 143, 222, 24, 66, 93, 188, 228, 108, 205, 218, 182,
     26, 252, 77, 131, 185, 13, 39, 254, 189, 249, 40, 216, 161, 139, 252], rfl⟩

/-- `11111111111111111111111111111111`. -/
def systemProgram : Pubkey :=
  ⟨[0, 0, 0, 0, 0, 0, 0, 0, 0, 0, 0, 0, 0, 0, 0, 0, 0, 0, 0, 0, 0, 0, 0, 0, 0, 0,
     0, 0, 0, 0, 0, 0], rfl⟩

/-- `ATokenGPvbdGVxr1b2hvZbsiqW5xWH25efTNsLJA8knL`. -/
def associatedTokenProgram : Pubkey :=
  ⟨[140, 151, 37, 143, 78, 36, 137, 241, 187, 61, 16, 41, 20, 142, 13, 131, 11, 90,
     19, 153, 218, 255, 16, 132, 4, 142, 123, 216, 219, 233, 248, 89], rfl⟩

/-- `LanMV9sAd7wArD4vJFi2qDdfnVhFxYSUg6eADduJ3uj`. -/
def launchlabProgram : Pubkey :=
  ⟨[5, 4, 59, 149, 77, 202, 38, 225, 239, 145, 181, 44, 79, 143, 137, 175, 138,
     111, 90, 200, 198, 33, 86, 241, 113, 207, 15, 33, 172, 81, 201, 34], rfl⟩

/-- `WLHv2UAZm6z4KyaaELi5pjdbJh6RESMva1Rnn8pJVVh`. -/
def launchlabAuthority : Pubkey :=
  ⟨[7, 131, 168, 21, 38, 33, 15, 148, 160, 232, 232, 77, 32, 135, 0, 59, 58, 66,
     96, 210, 156, 231, 157, 172, 254, 33, 164, 234, 119, 31, 166, 40], rfl⟩

/-- `2DPAtwB8L12vrMRExbLuyGnC7n2J5LNoZQSejeQGpwkr`. -/
def launchlabEventAuthority : Pubkey :=
  ⟨[18, 7, 185, 155, 53, 221, 226, 142, 75, 158, 222, 233, 126, 73, 215, 99, 151,
     181, 164, 160, 201, 63, 175, 210, 116, 199, 134, 160, 6, 142, 221, 111], rfl⟩

/-- StonkFun standard platform config: `4E876qZTE9FJMrBzgVtBrSrzz2TLivB5Y5QXPjB4gZL7`. -/
def stonkfunStandardPlatformConfig : Pubkey :=
  ⟨[47, 239, 165, 40, 201, 111, 63, 145, 35, 191, 93, 52, 33, 26, 215, 15, 178, 27,
     99, 178, 64, 51, 18, 97, 96, 83, 217, 175, 125, 72, 77, 220], rfl⟩

/-- StonkFun reward platform config: `6BwHHDg3u1854jC8PDLXvR4spTcLNaoBxLJNGC4nTESt`. -/
def stonkfunRewardPlatformConfig : Pubkey :=
  ⟨[77, 23, 158, 58, 238, 226, 29, 241, 63, 161, 14, 65, 7, 44, 216, 155, 93, 163,
     211, 229, 138, 85, 221, 46, 210, 185, 209, 248, 6, 214, 250, 177], rfl⟩

/-- `CPMMoo8L3F4NbTegBCKVNunggL7H1ZpdTHKxQB5qKP1C`. -/
def raydiumCpmmProgram : Pubkey :=
  ⟨[169, 42, 90, 139, 79, 41, 89, 82, 132, 37, 80, 170, 147, 253, 91, 149, 181,
     172, 230, 168, 235, 146, 12, 147, 148, 46, 67, 105, 12, 32, 236, 115], rfl⟩

/-- `GpMZbSM2GgvTKHJirzeGfMFoaZ8UR2X7F4v8vHTvxFbL`. -/
def raydiumCpmmAuthority : Pubkey :=
  ⟨[235, 0, 217, 245, 178, 146, 180, 33, 74, 199, 208, 55, 180, 214, 240, 100, 80,
     185, 100, 96, 13, 243, 115, 5, 43, 181, 232, 79, 47, 142, 154, 103], rfl⟩

/-- `6EF8rrecthR5Dkzon8Nwu78hRvfCKubJ14M5uBEwF6P`. -/
def pumpfunProgram : Pubkey :=
  ⟨[1, 86, 224, 246, 147, 102, 90, 207, 68, 219, 21, 104, 191, 23, 91, 170, 81,
     137, 203, 151, 245, 210, 255, 59, 101, 93, 43, 182, 253, 109, 24, 176], rfl⟩

/-- `Ce6TQqeHC9p8KetsN6JsjHK7UTZk7nasjjnr7XxXp9F1`. -/
def pumpfunEventAuthority : Pubkey :=
  ⟨[172, 241, 54, 235, 1, 252, 28, 78, 136, 61, 35, 200, 181, 132, 74, 181, 154,
     55, 246, 106, 221, 87, 197, 233, 172, 59, 83, 224, 89, 211, 92, 100], rfl⟩

/-- `pAMMBay6oceH9fJKBRHGP5D4bD4sWpmSwMn52FMfXEA`. -/
def pumpswapProgram : Pubkey :=
  ⟨[12, 20, 222, 252, 130, 94, 198, 118, 148, 37, 8, 24, 187, 101, 64, 101, 244,
     41, 141, 49, 86, 213, 113, 180, 212, 248, 9, 12, 24, 233, 168, 99], rfl⟩

/-- `ADyA8hdefvWN2dbGGWFotbzWxrAvLW83WG6QCVXvJKqw`. -/
def pumpswapGlobal : Pubkey :=
  ⟨[137, 11, 166, 68, 254, 31, 85, 170, 25, 241, 28, 210, 210, 236, 20, 211, 35,
     59, 110, 10, 75, 234, 238, 247, 43, 105, 133, 142, 33, 225, 112, 214], rfl⟩

/-- `GS4CU59F31iL7aR2Q8zVS8DRrcRnXX1yjQ66TqNVQnaR`. -/
def pumpswapEventAuthority : Pubkey :=
  ⟨[229, 74, 112, 149, 40, 131, 159, 97, 192, 185, 184, 96, 121, 137, 28, 19, 146,
     22, 228, 122, 113, 182, 47, 183, 59, 236, 114, 22, 148, 88, 116, 94], rfl⟩

/-- `C2aFPdENg4A2HQsmrd5rTw5TaYBX5Ku887cWjbFKtZpw`. -/
def pumpswapGlobalVolumeAccumulator : Pubkey :=
  ⟨[163, 215, 187, 18, 126, 88, 173, 193, 44, 166, 143, 131, 67, 126, 194, 225,
     195, 249, 130, 13, 233, 62, 88, 249, 23, 138, 41, 24, 221, 170, 247, 180], rfl⟩

/-- `5PHirr8joyTMp9JMm6nW7hNDVyEYdkzDqazxPD7RaTjx`. -/
def pumpswapFeeConfig : Pubkey :=
  ⟨[65, 36, 110, 204, 125, 120, 254, 129, 228, 23, 115, 164, 105, 101, 65, 153, 55,
     146, 58, 7, 100, 71, 151, 223, 111, 62, 181, 20, 66, 96, 16, 203], rfl⟩

/-- `pfeeUxB6jkeY1Hxd7CsFCAjcbHA9rWtchMGdZ6VojVZ`. -/
def pumpswapFeeProgram : Pubkey :=
  ⟨[12, 53, 255, 169, 5, 90, 142, 86, 141, 168, 247, 188, 7, 86, 21, 39, 76, 241,
     201, 44, 164, 31, 64, 0, 156, 81, 106, 164, 20, 194, 124, 112], rfl⟩

/-- `675kPX9MHTjS2zt1qfr1NYHuzeLXfQM9H24wFSUt1Mp8`. -/
def raydiumAmmV4Program : Pubkey :=
  ⟨[75, 217, 73, 196, 54, 2, 195, 63, 32, 119, 144, 237, 22, 163, 82, 76, 161, 185,
     151, 92, 241, 33, 162, 169, 12, 255, 236, 125, 248, 182, 138, 205], rfl⟩

/-- `5Q544fKrFoe6tsEbD7S8EmxGTJYAKtTVhAW5Q5pge4j1`. -/
def raydiumAmmV4Authority : Pubkey :=
  ⟨[65, 87, 176, 88, 15, 49, 197, 252, 228, 74, 98, 88, 45, 188, 249, 215, 142,
     231, 89, 67, 160, 132, 163, 147, 179, 80, 54, 141, 34, 137, 147, 8], rfl⟩

/-- `cpamdpZCGKUy5JxQXB4dcpGPiikHawvSWAd6mEn1sGG`. -/
def meteoraDammV2Program : Pubkey :=
  ⟨[9, 45, 33, 53, 101, 122, 21, 156, 43, 135, 212, 182, 106, 112, 219, 142, 151,
     82, 56, 159, 247, 106, 175, 32, 108, 237, 6, 58, 56, 249, 90, 237], rfl⟩

/-- `HLnpSz9h2S4hiLQ43rnSD9XkcUThA7B8hQMKmDaiTLcC`. -/
def meteoraDammV2Authority : Pubkey :=
  ⟨[242, 204, 213, 53, 172, 165, 241, 115, 106, 200, 34, 221, 7, 115, 228, 217, 47,
     189, 138, 89, 178, 148, 3, 80, 2, 149, 169, 1, 28, 115, 169, 229], rfl⟩

/-- `CAMMCzo5YL8w4VFF8KVHrK22GGUsp5VTaW7grrKgrWqK`. -/
def raydiumClmmProgram : Pubkey :=
  ⟨[165, 213, 202, 158, 4, 207, 93, 181, 144, 183, 20, 186, 47, 227, 44, 177, 89,
     19, 63, 193, 193, 146, 183, 34, 87, 253, 7, 211, 156, 176, 64, 30], rfl⟩

/-- `whirLbMiicVdio4qvUfM5KAg6Ct8VwpYzGff3uctyCc`. -/
def orcaWhirlpoolProgram : Pubkey :=
  ⟨[14, 3, 104, 95, 142, 144, 144, 83, 228, 88, 18, 28, 102, 245, 167, 106, 237,
     199, 112, 106, 161, 28, 130, 248, 170, 149, 42, 143, 43, 120, 121, 169], rfl⟩

/-- `LBUZKhRxPF3XUpBCjp4YzTKgLccjZhTSDM9YuVaPwxo`. -/
def meteoraDlmmProgram : Pubkey :=
  ⟨[4, 233, 225, 47, 188, 132, 232, 38, 201, 50, 204, 233, 226, 100, 12, 206, 21,
     89, 12, 28, 98, 115, 176, 146, 87, 8, 186, 59, 133, 32, 176, 188], rfl⟩

/-- `MemoSq4gqABAXKb96qnH8TysNcWxMyWCqXgDLGmfcHr`. -/
def memoProgram : Pubkey :=
  ⟨[5, 74, 83, 90, 153, 41, 33, 6, 77, 36, 232, 113, 96, 218, 56, 124, 124, 53,
     181, 221, 188, 146, 187, 129, 228, 31, 168, 64, 65, 5, 68, 141], rfl⟩

/-- `D1ZN9Wj1fRSUQfCjhvnu1hqDMT7hzjzBBpi12nVniYD6`. -/
def meteoraDlmmEventAuthority : Pubkey :=
  ⟨[178, 112, 214, 127, 169, 140, 81, 207, 2, 19, 5, 19, 88, 150, 43, 175, 53, 116,
     43, 237, 89, 201, 217, 68, 94, 156, 13, 12, 133, 199, 205, 145], rfl⟩

/-- `Sysvar1nstructions1111111111111111111111111`. -/
def sysvarInstructions : Pubkey :=
  ⟨[6, 167, 213, 23, 24, 123, 209, 102, 53, 218, 212, 4, 85, 253, 194, 192, 193,
     36, 198, 143, 33, 86, 117, 165, 219, 186, 203, 95, 8, 0, 0, 0], rfl⟩

/-- `5YxQFdt3Tr9zJLvkFccqXVUwhdTWJQc1fFg2YPbxvxeD`. -/
def pumpfunBuybackFeeRecipient : Pubkey :=
  ⟨[67, 158, 101, 16, 192, 61, 101, 250, 217, 49, 232, 157, 4, 190, 11, 183, 13,
     81, 151, 31, 81, 196, 21, 251, 52, 76, 7, 219, 65, 159, 33, 34], rfl⟩

/-- `Es9vMFrzaCERmJfrF4H2FYD4KCoNkY11McCe8BenwNYB`. -/
def usdtMint : Pubkey :=
  ⟨[206, 1, 14, 96, 175, 237, 178, 39, 23, 189, 99, 25, 47, 84, 20, 90, 63, 150,
     90, 51, 187, 130, 210, 199, 2, 158, 178, 206, 30, 32, 130, 100], rfl⟩

/-- `4wTV1YmiEkRvAtNtsSGPtUrqRYQMe5SKy2uB4Jjaxnjf`. -/
def pumpfunGlobal : Pubkey :=
  ⟨[58, 134, 94, 105, 238, 15, 84, 128, 202, 188, 246, 99, 87, 228, 220, 47, 24,
     213, 141, 69, 193, 234, 116, 137, 251, 55, 35, 217, 121, 60, 114, 166], rfl⟩

/-- `Hq2wp8uJ9jCPsYgNHex8RtqdvMPfVGoYwjvF1ATiwn2Y`. -/
def pumpfunGlobalVolumeAccumulator : Pubkey :=
  ⟨[250, 9, 17, 165, 72, 99, 65, 45, 99, 31, 78, 7, 135, 3, 41, 108, 3, 95, 13,
     19, 51, 160, 217, 200, 131, 141, 115, 183, 16, 254, 110, 45], rfl⟩

/-- `8Wf5TiAheLUqBrKXeYg2JtAFFMWtKdG2BSFgqUcPVwTt`. -/
def pumpfunFeeConfig : Pubkey :=
  ⟨[111, 154, 180, 164, 241, 149, 141, 192, 169, 201, 76, 63, 183, 44, 7, 153, 88,
     67, 237, 164, 133, 227, 162, 79, 16, 198, 147, 153, 248, 25, 148, 15], rfl⟩

/-! ## Instruction discriminators -/

def buyExactInLaunchlab : List UInt8 := [250, 234, 13, 123, 213, 156, 19, 236]
def sellExactInLaunchlab : List UInt8 := [149, 39, 222, 155, 211, 124, 152, 26]
def cpmmSwapBaseIn : List UInt8 := [143, 190, 90, 218, 196, 30, 51, 222]
def pumpfunBuyExactSolIn : List UInt8 := [56, 252, 116, 8, 158, 223, 205, 95]
def pumpfunSell : List UInt8 := [51, 230, 133, 164, 1, 127, 131, 173]
def pumpfunBuyExactQuoteInV2 : List UInt8 := [194, 171, 28, 70, 104, 77, 91, 47]
def pumpfunSellV2 : List UInt8 := [93, 246, 130, 60, 231, 233, 64, 178]
def pumpswapBuyExactQuoteIn : List UInt8 := [198, 46, 21, 82, 180, 217, 232, 112]
def pumpswapBuy : List UInt8 := [102, 6, 61, 18, 1, 218, 235, 234]
def pumpswapSell : List UInt8 := [51, 230, 133, 164, 1, 127, 131, 173]
def cpmmSwapBaseOut : List UInt8 := [55, 217, 98, 86, 163, 74, 180, 173]
def meteoraDammV2Swap2 : List UInt8 := [65, 75, 63, 76, 235, 91, 91, 136]
def clmmSwapV2 : List UInt8 := [43, 4, 237, 11, 26, 201, 30, 98]
def meteoraDlmmSwap2 : List UInt8 := [65, 75, 63, 76, 235, 91, 91, 136]

/-- Raydium AMM V4 `swapBaseInV2`. -/
def raydiumAmmV4SwapBaseInV2 : UInt8 := 16
/-- Raydium AMM V4 `swapBaseOutV2`. -/
def raydiumAmmV4SwapBaseOutV2 : UInt8 := 17
def meteoraDammV2ExactIn : UInt8 := 0
def meteoraDammV2PartialFill : UInt8 := 1
def meteoraDammV2ExactOut : UInt8 := 2
/-- Orca Whirlpool `swap_v2` shares the discriminator of Raydium CLMM's. -/
def whirlpoolSwapV2 : List UInt8 := clmmSwapV2

/-! ## Price bounds

Square-root prices in Q64.64; the upper bounds of the two venues differ. -/

def minSqrtPriceX64 : ℕ := 4295048016
def maxSqrtPriceX64 : ℕ := 79226673521066979257578248091
def whirlpoolMinSqrtPriceX64 : ℕ := 4295048016
def whirlpoolMaxSqrtPriceX64 : ℕ := 79226673515401279992447579055

/-! ## Static account metas -/

def launchlabAuthorityMeta : AccountMeta := ⟨launchlabAuthority, false, false⟩
def launchlabEventAuthorityMeta : AccountMeta := ⟨launchlabEventAuthority, false, false⟩
def launchlabProgramMeta : AccountMeta := ⟨launchlabProgram, false, false⟩
def systemProgramMeta : AccountMeta := ⟨systemProgram, false, false⟩
def associatedTokenProgramMeta : AccountMeta := ⟨associatedTokenProgram, false, false⟩
def raydiumCpmmAuthorityMeta : AccountMeta := ⟨raydiumCpmmAuthority, false, false⟩
def pumpfunProgramMeta : AccountMeta := ⟨pumpfunProgram, false, false⟩
def pumpswapGlobalMeta : AccountMeta := ⟨pumpswapGlobal, false, false⟩
def pumpswapEventAuthorityMeta : AccountMeta := ⟨pumpswapEventAuthority, false, false⟩
def pumpswapProgramMeta : AccountMeta := ⟨pumpswapProgram, false, false⟩
def pumpswapGlobalVolumeAccumulatorMeta : AccountMeta :=
  ⟨pumpswapGlobalVolumeAccumulator, false, false⟩
def pumpswapFeeConfigMeta : AccountMeta := ⟨pumpswapFeeConfig, false, false⟩
def pumpswapFeeProgramMeta : AccountMeta := ⟨pumpswapFeeProgram, false, false⟩
def raydiumAmmV4AuthorityMeta : AccountMeta := ⟨raydiumAmmV4Authority, false, false⟩
def meteoraDammV2AuthorityMeta : AccountMeta := ⟨meteoraDammV2Authority, false, false⟩
def meteoraDammV2ProgramMeta : AccountMeta := ⟨meteoraDammV2Program, false, false⟩
def sysvarInstructionsMeta : AccountMeta := ⟨sysvarInstructions, false, false⟩
def tokenProgramMeta : AccountMeta := ⟨tokenProgram, false, false⟩
def token2022ProgramMeta : AccountMeta := ⟨token2022Program, false, false⟩
def memoProgramMeta : AccountMeta := ⟨memoProgram, false, false⟩
def meteoraDlmmProgramMeta : AccountMeta := ⟨meteoraDlmmProgram, false, false⟩
def meteoraDlmmEventAuthorityMeta : AccountMeta := ⟨meteoraDlmmEventAuthority, false, false⟩

end Sdk
