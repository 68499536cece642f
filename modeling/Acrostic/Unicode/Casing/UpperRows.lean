import Acrostic.Unicode.Rows

namespace Acrostic.Unicode

-- Characters from U+0080 on that change when written in uppercase
def upperRows : List Nat := [
  0x8000B5_00039C_8000DF_000053_000053_8000E0_8000F6_0000C0_8000F8_8000FE_0000D8_8000FF_000178,
  0x800101_000100_800103_000102_800105_000104_800107_000106_800109_000108_80010B_00010A_80010D,
  0x00010C_80010F_00010E_800111_000110_800113_000112_800115_000114_800117_000116_800119_000118,
  0x80011B_00011A_80011D_00011C_80011F_00011E_800121_000120_800123_000122_800125_000124_800127,
  0x000126_800129_000128_80012B_00012A_80012D_00012C_80012F_00012E_800131_000049_800133_000132,
  0x800135_000134_800137_000136_80013A_000139_80013C_00013B_80013E_00013D_800140_00013F_800142,
  0x000141_800144_000143_800146_000145_800148_000147_800149_0002BC_00004E_80014B_00014A_80014D,
  0x00014C_80014F_00014E_800151_000150_800153_000152_800155_000154_800157_000156_800159_000158,
  0x80015B_00015A_80015D_00015C_80015F_00015E_800161_000160_800163_000162_800165_000164_800167,
  0x000166_800169_000168_80016B_00016A_80016D_00016C_80016F_00016E_800171_000170_800173_000172,
  0x800175_000174_800177_000176_80017A_000179_80017C_00017B_80017E_00017D_80017F_000053_800180,
  0x000243_800183_000182_800185_000184_800188_000187_80018C_00018B_800192_000191_800195_0001F6,
  0x800199_000198_80019A_00023D_80019B_00A7DC_80019E_000220_8001A1_0001A0_8001A3_0001A2_8001A5,
  0x0001A4_8001A8_0001A7_8001AD_0001AC_8001B0_0001AF_8001B4_0001B3_8001B6_0001B5_8001B9_0001B8,
  0x8001BD_0001BC_8001BF_0001F7_8001C5_0001C4_8001C6_0001C4_8001C8_0001C7_8001C9_0001C7_8001CB,
  0x0001CA_8001CC_0001CA_8001CE_0001CD_8001D0_0001CF_8001D2_0001D1_8001D4_0001D3_8001D6_0001D5,
  0x8001D8_0001D7_8001DA_0001D9_8001DC_0001DB_8001DD_00018E_8001DF_0001DE_8001E1_0001E0_8001E3,
  0x0001E2_8001E5_0001E4_8001E7_0001E6_8001E9_0001E8_8001EB_0001EA_8001ED_0001EC_8001EF_0001EE,
  0x8001F0_00004A_00030C_8001F2_0001F1_8001F3_0001F1_8001F5_0001F4_8001F9_0001F8_8001FB_0001FA,
  0x8001FD_0001FC_8001FF_0001FE_800201_000200_800203_000202_800205_000204_800207_000206_800209,
  0x000208_80020B_00020A_80020D_00020C_80020F_00020E_800211_000210_800213_000212_800215_000214,
  0x800217_000216_800219_000218_80021B_00021A_80021D_00021C_80021F_00021E_800223_000222_800225,
  0x000224_800227_000226_800229_000228_80022B_00022A_80022D_00022C_80022F_00022E_800231_000230,
  0x800233_000232_80023C_00023B_80023F_800240_002C7E_800242_000241_800247_000246_800249_000248,
  0x80024B_00024A_80024D_00024C_80024F_00024E_800250_002C6F_800251_002C6D_800252_002C70_800253,
  0x000181_800254_000186_800256_800257_000189_800259_00018F_80025B_000190_80025C_00A7AB_800260,
  0x000193_800261_00A7AC_800263_000194_800264_00A7CB_800265_00A78D_800266_00A7AA_800268_000197,
  0x800269_000196_80026A_00A7AE_80026B_002C62_80026C_00A7AD_80026F_00019C_800271_002C6E_800272,
  0x00019D_800275_00019F_80027D_002C64_800280_0001A6_800282_00A7C5_800283_0001A9_800287_00A7B1,
  0x800288_0001AE_800289_000244_80028A_80028B_0001B1_80028C_000245_800292_0001B7_80029D_00A7B2,
  0x80029E_00A7B0_800345_000399_800371_000370_800373_000372_800377_000376_80037B_80037D_0003FD,
  0x800390_000399_000308_000301_8003AC_000386_8003AD_8003AF_000388_8003B0_0003A5_000308_000301,
  0x8003B1_8003C1_000391_8003C2_0003A3_8003C3_8003CB_0003A3_8003CC_00038C_8003CD_8003CE_00038E,
  0x8003D0_000392_8003D1_000398_8003D5_0003A6_8003D6_0003A0_8003D7_0003CF_8003D9_0003D8_8003DB,
  0x0003DA_8003DD_0003DC_8003DF_0003DE_8003E1_0003E0_8003E3_0003E2_8003E5_0003E4_8003E7_0003E6,
  0x8003E9_0003E8_8003EB_0003EA_8003ED_0003EC_8003EF_0003EE_8003F0_00039A_8003F1_0003A1_8003F2,
  0x0003F9_8003F3_00037F_8003F5_000395_8003F8_0003F7_8003FB_0003FA_800430_80044F_000410_800450,
  0x80045F_000400_800461_000460_800463_000462_800465_000464_800467_000466_800469_000468_80046B,
  0x00046A_80046D_00046C_80046F_00046E_800471_000470_800473_000472_800475_000474_800477_000476,
  0x800479_000478_80047B_00047A_80047D_00047C_80047F_00047E_800481_000480_80048B_00048A_80048D,
  0x00048C_80048F_00048E_800491_000490_800493_000492_800495_000494_800497_000496_800499_000498,
  0x80049B_00049A_80049D_00049C_80049F_00049E_8004A1_0004A0_8004A3_0004A2_8004A5_0004A4_8004A7,
  0x0004A6_8004A9_0004A8_8004AB_0004AA_8004AD_0004AC_8004AF_0004AE_8004B1_0004B0_8004B3_0004B2,
  0x8004B5_0004B4_8004B7_0004B6_8004B9_0004B8_8004BB_0004BA_8004BD_0004BC_8004BF_0004BE_8004C2,
  0x0004C1_8004C4_0004C3_8004C6_0004C5_8004C8_0004C7_8004CA_0004C9_8004CC_0004CB_8004CE_0004CD,
  0x8004CF_0004C0_8004D1_0004D0_8004D3_0004D2_8004D5_0004D4_8004D7_0004D6_8004D9_0004D8_8004DB,
  0x0004DA_8004DD_0004DC_8004DF_0004DE_8004E1_0004E0_8004E3_0004E2_8004E5_0004E4_8004E7_0004E6,
  0x8004E9_0004E8_8004EB_0004EA_8004ED_0004EC_8004EF_0004EE_8004F1_0004F0_8004F3_0004F2_8004F5,
  0x0004F4_8004F7_0004F6_8004F9_0004F8_8004FB_0004FA_8004FD_0004FC_8004FF_0004FE_800501_000500,
  0x800503_000502_800505_000504_800507_000506_800509_000508_80050B_00050A_80050D_00050C_80050F,
  0x00050E_800511_000510_800513_000512_800515_000514_800517_000516_800519_000518_80051B_00051A,
  0x80051D_00051C_80051F_00051E_800521_000520_800523_000522_800525_000524_800527_000526_800529,
  0x000528_80052B_00052A_80052D_00052C_80052F_00052E_800561_800586_000531_800587_000535_000552,
  0x8010D0_8010FA_001C90_8010FD_8010FF_001CBD_8013F8_8013FD_0013F0_801C80_000412_801C81_000414,
  0x801C82_00041E_801C83_801C84_000421_801C85_000422_801C86_00042A_801C87_000462_801C88_00A64A,
  0x801C8A_001C89_801D79_00A77D_801D7D_002C63_801D8E_00A7C6_801E01_001E00_801E03_001E02_801E05,
  0x001E04_801E07_001E06_801E09_001E08_801E0B_001E0A_801E0D_001E0C_801E0F_001E0E_801E11_001E10,
  0x801E13_001E12_801E15_001E14_801E17_001E16_801E19_001E18_801E1B_001E1A_801E1D_001E1C_801E1F,
  0x001E1E_801E21_001E20_801E23_001E22_801E25_001E24_801E27_001E26_801E29_001E28_801E2B_001E2A,
  0x801E2D_001E2C_801E2F_001E2E_801E31_001E30_801E33_001E32_801E35_001E34_801E37_001E36_801E39,
  0x001E38_801E3B_001E3A_801E3D_001E3C_801E3F_001E3E_801E41_001E40_801E43_001E42_801E45_001E44,
  0x801E47_001E46_801E49_001E48_801E4B_001E4A_801E4D_001E4C_801E4F_001E4E_801E51_001E50_801E53,
  0x001E52_801E55_001E54_801E57_001E56_801E59_001E58_801E5B_001E5A_801E5D_001E5C_801E5F_001E5E,
  0x801E61_001E60_801E63_001E62_801E65_001E64_801E67_001E66_801E69_001E68_801E6B_001E6A_801E6D,
  0x001E6C_801E6F_001E6E_801E71_001E70_801E73_001E72_801E75_001E74_801E77_001E76_801E79_001E78,
  0x801E7B_001E7A_801E7D_001E7C_801E7F_001E7E_801E81_001E80_801E83_001E82_801E85_001E84_801E87,
  0x001E86_801E89_001E88_801E8B_001E8A_801E8D_001E8C_801E8F_001E8E_801E91_001E90_801E93_001E92,
  0x801E95_001E94_801E96_000048_000331_801E97_000054_000308_801E98_000057_00030A_801E99_000059,
  0x00030A_801E9A_000041_0002BE_801E9B_001E60_801EA1_001EA0_801EA3_001EA2_801EA5_001EA4_801EA7,
  0x001EA6_801EA9_001EA8_801EAB_001EAA_801EAD_001EAC_801EAF_001EAE_801EB1_001EB0_801EB3_001EB2,
  0x801EB5_001EB4_801EB7_001EB6_801EB9_001EB8_801EBB_001EBA_801EBD_001EBC_801EBF_001EBE_801EC1,
  0x001EC0_801EC3_001EC2_801EC5_001EC4_801EC7_001EC6_801EC9_001EC8_801ECB_001ECA_801ECD_001ECC,
  0x801ECF_001ECE_801ED1_001ED0_801ED3_001ED2_801ED5_001ED4_801ED7_001ED6_801ED9_001ED8_801EDB,
  0x001EDA_801EDD_001EDC_801EDF_001EDE_801EE1_001EE0_801EE3_001EE2_801EE5_001EE4_801EE7_001EE6,
  0x801EE9_001EE8_801EEB_001EEA_801EED_001EEC_801EEF_001EEE_801EF1_001EF0_801EF3_001EF2_801EF5,
  0x001EF4_801EF7_001EF6_801EF9_001EF8_801EFB_001EFA_801EFD_001EFC_801EFF_001EFE_801F00_801F07,
  0x001F08_801F10_801F15_001F18_801F20_801F27_001F28_801F30_801F37_001F38_801F40_801F45_001F48,
  0x801F50_0003A5_000313_801F51_001F59_801F52_0003A5_000313_000300_801F53_001F5B_801F54_0003A5,
  0x000313_000301_801F55_001F5D_801F56_0003A5_000313_000342_801F57_001F5F_801F60_801F67_001F68,
  0x801F70_801F71_001FBA_801F72_801F75_001FC8_801F76_801F77_001FDA_801F78_801F79_001FF8_801F7A,
  0x801F7B_001FEA_801F7C_801F7D_001FFA_801F80_001F08_000399_801F81_001F09_000399_801F82_001F0A,
  0x000399_801F83_001F0B_000399_801F84_001F0C_000399_801F85_001F0D_000399_801F86_001F0E_000399,
  0x801F87_001F0F_000399_801F88_001F08_000399_801F89_001F09_000399_801F8A_001F0A_000399_801F8B,
  0x001F0B_000399_801F8C_001F0C_000399_801F8D_001F0D_000399_801F8E_001F0E_000399_801F8F_001F0F,
  0x000399_801F90_001F28_000399_801F91_001F29_000399_801F92_001F2A_000399_801F93_001F2B_000399,
  0x801F94_001F2C_000399_801F95_001F2D_000399_801F96_001F2E_000399_801F97_001F2F_000399_801F98,
  0x001F28_000399_801F99_001F29_000399_801F9A_001F2A_000399_801F9B_001F2B_000399_801F9C_001F2C,
  0x000399_801F9D_001F2D_000399_801F9E_001F2E_000399_801F9F_001F2F_000399_801FA0_001F68_000399,
  0x801FA1_001F69_000399_801FA2_001F6A_000399_801FA3_001F6B_000399_801FA4_001F6C_000399_801FA5,
  0x001F6D_000399_801FA6_001F6E_000399_801FA7_001F6F_000399_801FA8_001F68_000399_801FA9_001F69,
  0x000399_801FAA_001F6A_000399_801FAB_001F6B_000399_801FAC_001F6C_000399_801FAD_001F6D_000399,
  0x801FAE_001F6E_000399_801FAF_001F6F_000399_801FB0_801FB1_001FB8_801FB2_001FBA_000399_801FB3,
  0x000391_000399_801FB4_000386_000399_801FB6_000391_000342_801FB7_000391_000342_000399_801FBC,
  0x000391_000399_801FBE_000399_801FC2_001FCA_000399_801FC3_000397_000399_801FC4_000389_000399,
  0x801FC6_000397_000342_801FC7_000397_000342_000399_801FCC_000397_000399_801FD0_801FD1_001FD8,
  0x801FD2_000399_000308_000300_801FD3_000399_000308_000301_801FD6_000399_000342_801FD7_000399,
  0x000308_000342_801FE0_801FE1_001FE8_801FE2_0003A5_000308_000300_801FE3_0003A5_000308_000301,
  0x801FE4_0003A1_000313_801FE5_001FEC_801FE6_0003A5_000342_801FE7_0003A5_000308_000342_801FF2,
  0x001FFA_000399_801FF3_0003A9_000399_801FF4_00038F_000399_801FF6_0003A9_000342_801FF7_0003A9,
  0x000342_000399_801FFC_0003A9_000399_80214E_002132_802170_80217F_002160_802184_002183_8024D0,
  0x8024E9_0024B6_802C30_802C5F_002C00_802C61_002C60_802C65_00023A_802C66_00023E_802C68_002C67,
  0x802C6A_002C69_802C6C_002C6B_802C73_002C72_802C76_002C75_802C81_002C80_802C83_002C82_802C85,
  0x002C84_802C87_002C86_802C89_002C88_802C8B_002C8A_802C8D_002C8C_802C8F_002C8E_802C91_002C90,
  0x802C93_002C92_802C95_002C94_802C97_002C96_802C99_002C98_802C9B_002C9A_802C9D_002C9C_802C9F,
  0x002C9E_802CA1_002CA0_802CA3_002CA2_802CA5_002CA4_802CA7_002CA6_802CA9_002CA8_802CAB_002CAA,
  0x802CAD_002CAC_802CAF_002CAE_802CB1_002CB0_802CB3_002CB2_802CB5_002CB4_802CB7_002CB6_802CB9,
  0x002CB8_802CBB_002CBA_802CBD_002CBC_802CBF_002CBE_802CC1_002CC0_802CC3_002CC2_802CC5_002CC4,
  0x802CC7_002CC6_802CC9_002CC8_802CCB_002CCA_802CCD_002CCC_802CCF_002CCE_802CD1_002CD0_802CD3,
  0x002CD2_802CD5_002CD4_802CD7_002CD6_802CD9_002CD8_802CDB_002CDA_802CDD_002CDC_802CDF_002CDE,
  0x802CE1_002CE0_802CE3_002CE2_802CEC_002CEB_802CEE_002CED_802CF3_002CF2_802D00_802D25_0010A0,
  0x802D27_0010C7_802D2D_0010CD_80A641_00A640_80A643_00A642_80A645_00A644_80A647_00A646_80A649,
  0x00A648_80A64B_00A64A_80A64D_00A64C_80A64F_00A64E_80A651_00A650_80A653_00A652_80A655_00A654,
  0x80A657_00A656_80A659_00A658_80A65B_00A65A_80A65D_00A65C_80A65F_00A65E_80A661_00A660_80A663,
  0x00A662_80A665_00A664_80A667_00A666_80A669_00A668_80A66B_00A66A_80A66D_00A66C_80A681_00A680,
  0x80A683_00A682_80A685_00A684_80A687_00A686_80A689_00A688_80A68B_00A68A_80A68D_00A68C_80A68F,
  0x00A68E_80A691_00A690_80A693_00A692_80A695_00A694_80A697_00A696_80A699_00A698_80A69B_00A69A,
  0x80A723_00A722_80A725_00A724_80A727_00A726_80A729_00A728_80A72B_00A72A_80A72D_00A72C_80A72F,
  0x00A72E_80A733_00A732_80A735_00A734_80A737_00A736_80A739_00A738_80A73B_00A73A_80A73D_00A73C,
  0x80A73F_00A73E_80A741_00A740_80A743_00A742_80A745_00A744_80A747_00A746_80A749_00A748_80A74B,
  0x00A74A_80A74D_00A74C_80A74F_00A74E_80A751_00A750_80A753_00A752_80A755_00A754_80A757_00A756,
  0x80A759_00A758_80A75B_00A75A_80A75D_00A75C_80A75F_00A75E_80A761_00A760_80A763_00A762_80A765,
  0x00A764_80A767_00A766_80A769_00A768_80A76B_00A76A_80A76D_00A76C_80A76F_00A76E_80A77A_00A779,
  0x80A77C_00A77B_80A77F_00A77E_80A781_00A780_80A783_00A782_80A785_00A784_80A787_00A786_80A78C,
  0x00A78B_80A791_00A790_80A793_00A792_80A794_00A7C4_80A797_00A796_80A799_00A798_80A79B_00A79A,
  0x80A79D_00A79C_80A79F_00A79E_80A7A1_00A7A0_80A7A3_00A7A2_80A7A5_00A7A4_80A7A7_00A7A6_80A7A9,
  0x00A7A8_80A7B5_00A7B4_80A7B7_00A7B6_80A7B9_00A7B8_80A7BB_00A7BA_80A7BD_00A7BC_80A7BF_00A7BE,
  0x80A7C1_00A7C0_80A7C3_00A7C2_80A7C8_00A7C7_80A7CA_00A7C9_80A7CD_00A7CC_80A7CF_00A7CE_80A7D1,
  0x00A7D0_80A7D3_00A7D2_80A7D5_00A7D4_80A7D7_00A7D6_80A7D9_00A7D8_80A7DB_00A7DA_80A7F6_00A7F5,
  0x80AB53_00A7B3_80AB70_80ABBF_0013A0_80FB00_000046_000046_80FB01_000046_000049_80FB02_000046,
  0x00004C_80FB03_000046_000046_000049_80FB04_000046_000046_00004C_80FB05_000053_000054_80FB06,
  0x000053_000054_80FB13_000544_000546_80FB14_000544_000535_80FB15_000544_00053B_80FB16_00054E,
  0x000546_80FB17_000544_00053D_80FF41_80FF5A_00FF21_810428_81044F_010400_8104D8_8104FB_0104B0,
  0x810597_8105A1_010570_8105A3_8105B1_01057C_8105B3_8105B9_01058C_8105BB_8105BC_010594_810CC0,
  0x810CF2_010C80_810D70_810D85_010D50_8118C0_8118DF_0118A0_816E60_816E7F_016E40_816EBB_816ED3,
  0x016EA0_81E922_81E943_01E900]

end Acrostic.Unicode
