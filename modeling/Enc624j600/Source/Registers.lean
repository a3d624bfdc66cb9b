/-
# Registers and instructions of the ENC624J600

The addresses of the unbanked special function registers, the addresses of the PHY
registers and the bit masks, as far as the driver uses them, and the opcodes of the SPI
instruction set, under the names and with the values of `enc624j600_driver.c`.
-/
import Mathlib.Init

namespace Enc624j600

/-- `uint8_t`. -/
abbrev Byte : Type := BitVec 8

/-- `uint16_t`. -/
abbrev Word : Type := BitVec 16

/-! ## Unbanked SFR addresses -/

abbrev ETXST : Byte := 0x00#8
abbrev ETXLEN : Byte := 0x02#8
abbrev ERXST : Byte := 0x04#8
abbrev ERXTAIL : Byte := 0x06#8
abbrev ERXHEAD : Byte := 0x08#8
abbrev ETXSTAT : Byte := 0x12#8
abbrev ETXWIRE : Byte := 0x14#8
abbrev EUDAST : Byte := 0x16#8
abbrev EUDAND : Byte := 0x18#8
abbrev ESTAT : Byte := 0x1A#8
abbrev EIR : Byte := 0x1C#8
abbrev ECON1 : Byte := 0x1E#8
abbrev ERXFCON : Byte := 0x34#8
abbrev MACON1 : Byte := 0x40#8
abbrev MACON2 : Byte := 0x42#8
abbrev MABBIPG : Byte := 0x44#8
abbrev MAMXFL : Byte := 0x4A#8
abbrev MICMD : Byte := 0x52#8
abbrev MIREGADR : Byte := 0x54#8
abbrev MAADR3 : Byte := 0x60#8
abbrev MAADR2 : Byte := 0x62#8
abbrev MAADR1 : Byte := 0x64#8
abbrev MIWR : Byte := 0x66#8
abbrev MIRD : Byte := 0x68#8
abbrev MISTAT : Byte := 0x6A#8
abbrev ECON2 : Byte := 0x6E#8
abbrev ERXWM : Byte := 0x70#8

/-! ## PHY SFR addresses -/

abbrev PHCON1 : Byte := 0x00#8
abbrev PHSTAT1 : Byte := 0x01#8
abbrev PHANA : Byte := 0x04#8
abbrev PHANLPA : Byte := 0x05#8
abbrev PHANE : Byte := 0x06#8
abbrev PHSTAT2 : Byte := 0x1B#8
abbrev PHSTAT3 : Byte := 0x1F#8

/-! ## SPI instruction set -/

abbrev B0SEL : Byte := 0xC0#8
abbrev B1SEL : Byte := 0xC2#8
abbrev B2SEL : Byte := 0xC4#8
abbrev B3SEL : Byte := 0xC6#8
abbrev SETETHRST : Byte := 0xCA#8
abbrev FCDISABLE : Byte := 0xE0#8
abbrev FCSINGLE : Byte := 0xE2#8
abbrev FCMULTIPLE : Byte := 0xE4#8
abbrev FCCLEAR : Byte := 0xE6#8
abbrev SETPKTDEC : Byte := 0xCC#8
abbrev DMASTOP : Byte := 0xD2#8
abbrev DMACKSUM : Byte := 0xD8#8
abbrev DMACKSUMS : Byte := 0xDA#8
abbrev DMACOPY : Byte := 0xDC#8
abbrev DMACOPYS : Byte := 0xDE#8
abbrev SETTXRTS : Byte := 0xD4#8
abbrev ENABLERX : Byte := 0xE8#8
abbrev DISABLERX : Byte := 0xEA#8
abbrev SETEIE : Byte := 0xEC#8
abbrev CLREIE : Byte := 0xEE#8

abbrev WGPRDPT : Byte := 0x60#8
abbrev RGPRDPT : Byte := 0x62#8
abbrev WRXRDPT : Byte := 0x64#8
abbrev RRXRDPT : Byte := 0x66#8
abbrev WUDARDPT : Byte := 0x68#8
abbrev RUDARDPT : Byte := 0x6A#8
abbrev WGPWRPT : Byte := 0x6C#8
abbrev RGPWRPT : Byte := 0x6E#8
abbrev WRXWRPT : Byte := 0x70#8
abbrev RRXWRPT : Byte := 0x72#8
abbrev WUDAWRPT : Byte := 0x74#8
abbrev RUDAWRPT : Byte := 0x76#8

abbrev RCRU : Byte := 0x20#8
abbrev WCRU : Byte := 0x22#8
abbrev BFSU : Byte := 0x24#8
abbrev BFCU : Byte := 0x26#8

abbrev RGPDATA : Byte := 0x28#8
abbrev WGPDATA : Byte := 0x2A#8
abbrev RRXDATA : Byte := 0x2C#8
abbrev WRXDATA : Byte := 0x2E#8
abbrev RUDADATA : Byte := 0x30#8
abbrev WUDADATA : Byte := 0x32#8

/-! ## Bit masks -/

/-! ### ETXSTAT -/

abbrev DEFER : Word := 0x0080#16
abbrev EXDEFER : Word := 0x0100#16
abbrev MAXCOL : Word := 0x0200#16
abbrev LATECOL : Word := 0x0400#16

/-! ### ESTAT -/

abbrev PKTCNT0 : Word := 0x0001#16
abbrev PKTCNT1 : Word := 0x0002#16
abbrev PKTCNT2 : Word := 0x0004#16
abbrev PKTCNT3 : Word := 0x0008#16
abbrev PKTCNT4 : Word := 0x0010#16
abbrev PKTCNT5 : Word := 0x0020#16
abbrev PKTCNT6 : Word := 0x0040#16
abbrev PKTCNT7 : Word := 0x0080#16
abbrev PHYDPX : Word := 0x0400#16
abbrev CLKRDY : Word := 0x1000#16

/-! ### ECON1 -/

abbrev RXEN : Word := 0x0001#16
abbrev TXRTS : Word := 0x0002#16
abbrev FCOP0 : Word := 0x0040#16
abbrev FCOP1 : Word := 0x0080#16

/-! ### ERXFCON -/

abbrev BCEN : Word := 0x0001#16
abbrev MCEN : Word := 0x0002#16
abbrev NOTMEEN : Word := 0x0004#16
abbrev UCEN : Word := 0x0008#16
abbrev RUNTEN : Word := 0x0010#16
abbrev RUNTEEN : Word := 0x0020#16
abbrev CRCEN : Word := 0x0040#16
abbrev CRCEEN : Word := 0x0080#16
abbrev PMEN0 : Word := 0x0100#16
abbrev PMEN1 : Word := 0x0200#16
abbrev PMEN2 : Word := 0x0400#16
abbrev PMEN3 : Word := 0x0800#16
abbrev MPEN : Word := 0x4000#16
abbrev HTEN : Word := 0x8000#16

/-! ### MACON1 and MACON2 -/

abbrev LOOPBK : Word := 0x0010#16
abbrev FULDPX : Word := 0x0001#16
abbrev HFRMEN : Word := 0x0004#16
abbrev TXCRCEN : Word := 0x0010#16
abbrev PADCFG0 : Word := 0x0020#16
abbrev PADCFG1 : Word := 0x0040#16
abbrev PADCFG2 : Word := 0x0080#16

/-! ### MICMD and MISTAT -/

abbrev MIIRD : Word := 0x0001#16
abbrev BUSY : Word := 0x0001#16

/-! ### ECON2 -/

abbrev AUTOFC : Word := 0x0080#16
abbrev COCON0 : Word := 0x0100#16
abbrev COCON1 : Word := 0x0200#16
abbrev COCON2 : Word := 0x0400#16
abbrev COCON3 : Word := 0x0800#16
abbrev TXMAC : Word := 0x2000#16

/-! ### PHY registers -/

abbrev PSLEEP : Word := 0x0800#16
abbrev ANEN : Word := 0x1000#16
abbrev PLOOPBK : Word := 0x4000#16
abbrev LLSTAT : Word := 0x0004#16
abbrev ANDONE : Word := 0x0020#16
abbrev ADPAUS0 : Word := 0x0400#16

end Enc624j600
