import Acrostic.Unicode.Rows

namespace Acrostic.Unicode

-- Characters from U+0080 on that change when written in lowercase
def lowerRows : List Nat := [
  0x8000C0_8000D6_0000E0_8000D8_8000DE_0000F8_800100_000101_800102_000103_800104_000105_800106,
  0x000107_800108_000109_80010A_00010B_80010C_00010D_80010E_00010F_800110_000111_800112_000113,
  0x800114_000115_800116_000117_800118_000119_80011A_00011B_80011C_00011D_80011E_00011F_800120,
  0x000121_800122_000123_800124_000125_800126_000127_800128_000129_80012A_00012B_80012C_00012D,
  0x80012E_00012F_800130_000069_000307_800132_000133_800134_000135_800136_000137_800139_00013A,
  0x80013B_00013C_80013D_00013E_80013F_000140_800141_000142_800143_000144_800145_000146_800147,
  0x000148_80014A_00014B_80014C_00014D_80014E_00014F_800150_000151_800152_000153_800154_000155,
  0x800156_000157_800158_000159_80015A_00015B_80015C_00015D_80015E_00015F_800160_000161_800162,
  0x000163_800164_000165_800166_000167_800168_000169_80016A_00016B_80016C_00016D_80016E_00016F,
  0x800170_000171_800172_000173_800174_000175_800176_000177_800178_0000FF_800179_00017A_80017B,
  0x00017C_80017D_00017E_800181_000253_800182_000183_800184_000185_800186_000254_800187_000188,
  0x800189_80018A_000256_80018B_00018C_80018E_0001DD_80018F_000259_800190_00025B_800191_000192,
  0x800193_000260_800194_000263_800196_000269_800197_000268_800198_000199_80019C_00026F_80019D,
  0x000272_80019F_000275_8001A0_0001A1_8001A2_0001A3_8001A4_0001A5_8001A6_000280_8001A7_0001A8,
  0x8001A9_000283_8001AC_0001AD_8001AE_000288_8001AF_0001B0_8001B1_8001B2_00028A_8001B3_0001B4,
  0x8001B5_0001B6_8001B7_000292_8001B8_0001B9_8001BC_0001BD_8001C4_0001C6_8001C5_0001C6_8001C7,
  0x0001C9_8001C8_0001C9_8001CA_0001CC_8001CB_0001CC_8001CD_0001CE_8001CF_0001D0_8001D1_0001D2,
  0x8001D3_0001D4_8001D5_0001D6_8001D7_0001D8_8001D9_0001DA_8001DB_0001DC_8001DE_0001DF_8001E0,
  0x0001E1_8001E2_0001E3_8001E4_0001E5_8001E6_0001E7_8001E8_0001E9_8001EA_0001EB_8001EC_0001ED,
  0x8001EE_0001EF_8001F1_0001F3_8001F2_0001F3_8001F4_0001F5_8001F6_000195_8001F7_0001BF_8001F8,
  0x0001F9_8001FA_0001FB_8001FC_0001FD_8001FE_0001FF_800200_000201_800202_000203_800204_000205,
  0x800206_000207_800208_000209_80020A_00020B_80020C_00020D_80020E_00020F_800210_000211_800212,
  0x000213_800214_000215_800216_000217_800218_000219_80021A_00021B_80021C_00021D_80021E_00021F,
  0x800220_00019E_800222_000223_800224_000225_800226_000227_800228_000229_80022A_00022B_80022C,
  0x00022D_80022E_00022F_800230_000231_800232_000233_80023A_002C65_80023B_00023C_80023D_00019A,
  0x80023E_002C66_800241_000242_800243_000180_800244_000289_800245_00028C_800246_000247_800248,
  0x000249_80024A_00024B_80024C_00024D_80024E_00024F_800370_000371_800372_000373_800376_000377,
  0x80037F_0003F3_800386_0003AC_800388_80038A_0003AD_80038C_0003CC_80038E_80038F_0003CD_800391,
  0x8003A1_0003B1_8003A3_8003AB_0003C3_8003CF_0003D7_8003D8_0003D9_8003DA_0003DB_8003DC_0003DD,
  0x8003DE_0003DF_8003E0_0003E1_8003E2_0003E3_8003E4_0003E5_8003E6_0003E7_8003E8_0003E9_8003EA,
  0x0003EB_8003EC_0003ED_8003EE_0003EF_8003F4_0003B8_8003F7_0003F8_8003F9_0003F2_8003FA_0003FB,
  0x8003FD_8003FF_00037B_800400_80040F_000450_800410_80042F_000430_800460_000461_800462_000463,
  0x800464_000465_800466_000467_800468_000469_80046A_00046B_80046C_00046D_80046E_00046F_800470,
  0x000471_800472_000473_800474_000475_800476_000477_800478_000479_80047A_00047B_80047C_00047D,
  0x80047E_00047F_800480_000481_80048A_00048B_80048C_00048D_80048E_00048F_800490_000491_800492,
  0x000493_800494_000495_800496_000497_800498_000499_80049A_00049B_80049C_00049D_80049E_00049F,
  0x8004A0_0004A1_8004A2_0004A3_8004A4_0004A5_8004A6_0004A7_8004A8_0004A9_8004AA_0004AB_8004AC,
  0x0004AD_8004AE_0004AF_8004B0_0004B1_8004B2_0004B3_8004B4_0004B5_8004B6_0004B7_8004B8_0004B9,
  0x8004BA_0004BB_8004BC_0004BD_8004BE_0004BF_8004C0_0004CF_8004C1_0004C2_8004C3_0004C4_8004C5,
  0x0004C6_8004C7_0004C8_8004C9_0004CA_8004CB_0004CC_8004CD_0004CE_8004D0_0004D1_8004D2_0004D3,
  0x8004D4_0004D5_8004D6_0004D7_8004D8_0004D9_8004DA_0004DB_8004DC_0004DD_8004DE_0004DF_8004E0,
  0x0004E1_8004E2_0004E3_8004E4_0004E5_8004E6_0004E7_8004E8_0004E9_8004EA_0004EB_8004EC_0004ED,
  0x8004EE_0004EF_8004F0_0004F1_8004F2_0004F3_8004F4_0004F5_8004F6_0004F7_8004F8_0004F9_8004FA,
  0x0004FB_8004FC_0004FD_8004FE_0004FF_800500_000501_800502_000503_800504_000505_800506_000507,
  0x800508_000509_80050A_00050B_80050C_00050D_80050E_00050F_800510_000511_800512_000513_800514,
  0x000515_800516_000517_800518_000519_80051A_00051B_80051C_00051D_80051E_00051F_800520_000521,
  0x800522_000523_800524_000525_800526_000527_800528_000529_80052A_00052B_80052C_00052D_80052E,
  0x00052F_800531_800556_000561_8010A0_8010C5_002D00_8010C7_002D27_8010CD_002D2D_8013A0_8013EF,
  0x00AB70_8013F0_8013F5_0013F8_801C89_001C8A_801C90_801CBA_0010D0_801CBD_801CBF_0010FD_801E00,
  0x001E01_801E02_001E03_801E04_001E05_801E06_001E07_801E08_001E09_801E0A_001E0B_801E0C_001E0D,
  0x801E0E_001E0F_801E10_001E11_801E12_001E13_801E14_001E15_801E16_001E17_801E18_001E19_801E1A,
  0x001E1B_801E1C_001E1D_801E1E_001E1F_801E20_001E21_801E22_001E23_801E24_001E25_801E26_001E27,
  0x801E28_001E29_801E2A_001E2B_801E2C_001E2D_801E2E_001E2F_801E30_001E31_801E32_001E33_801E34,
  0x001E35_801E36_001E37_801E38_001E39_801E3A_001E3B_801E3C_001E3D_801E3E_001E3F_801E40_001E41,
  0x801E42_001E43_801E44_001E45_801E46_001E47_801E48_001E49_801E4A_001E4B_801E4C_001E4D_801E4E,
  0x001E4F_801E50_001E51_801E52_001E53_801E54_001E55_801E56_001E57_801E58_001E59_801E5A_001E5B,
  0x801E5C_001E5D_801E5E_001E5F_801E60_001E61_801E62_001E63_801E64_001E65_801E66_001E67_801E68,
  0x001E69_801E6A_001E6B_801E6C_001E6D_801E6E_001E6F_801E70_001E71_801E72_001E73_801E74_001E75,
  0x801E76_001E77_801E78_001E79_801E7A_001E7B_801E7C_001E7D_801E7E_001E7F_801E80_001E81_801E82,
  0x001E83_801E84_001E85_801E86_001E87_801E88_001E89_801E8A_001E8B_801E8C_001E8D_801E8E_001E8F,
  0x801E90_001E91_801E92_001E93_801E94_001E95_801E9E_0000DF_801EA0_001EA1_801EA2_001EA3_801EA4,
  0x001EA5_801EA6_001EA7_801EA8_001EA9_801EAA_001EAB_801EAC_001EAD_801EAE_001EAF_801EB0_001EB1,
  0x801EB2_001EB3_801EB4_001EB5_801EB6_001EB7_801EB8_001EB9_801EBA_001EBB_801EBC_001EBD_801EBE,
  0x001EBF_801EC0_001EC1_801EC2_001EC3_801EC4_001EC5_801EC6_001EC7_801EC8_001EC9_801ECA_001ECB,
  0x801ECC_001ECD_801ECE_001ECF_801ED0_001ED1_801ED2_001ED3_801ED4_001ED5_801ED6_001ED7_801ED8,
  0x001ED9_801EDA_001EDB_801EDC_001EDD_801EDE_001EDF_801EE0_001EE1_801EE2_001EE3_801EE4_001EE5,
  0x801EE6_001EE7_801EE8_001EE9_801EEA_001EEB_801EEC_001EED_801EEE_001EEF_801EF0_001EF1_801EF2,
  0x001EF3_801EF4_001EF5_801EF6_001EF7_801EF8_001EF9_801EFA_001EFB_801EFC_001EFD_801EFE_001EFF,
  0x801F08_801F0F_001F00_801F18_801F1D_001F10_801F28_801F2F_001F20_801F38_801F3F_001F30_801F48,
  0x801F4D_001F40_801F59_001F51_801F5B_001F53_801F5D_001F55_801F5F_001F57_801F68_801F6F_001F60,
  0x801F88_801F8F_001F80_801F98_801F9F_001F90_801FA8_801FAF_001FA0_801FB8_801FB9_001FB0_801FBA,
  0x801FBB_001F70_801FBC_001FB3_801FC8_801FCB_001F72_801FCC_001FC3_801FD8_801FD9_001FD0_801FDA,
  0x801FDB_001F76_801FE8_801FE9_001FE0_801FEA_801FEB_001F7A_801FEC_001FE5_801FF8_801FF9_001F78,
  0x801FFA_801FFB_001F7C_801FFC_001FF3_802126_0003C9_80212A_00006B_80212B_0000E5_802132_00214E,
  0x802160_80216F_002170_802183_002184_8024B6_8024CF_0024D0_802C00_802C2F_002C30_802C60_002C61,
  0x802C62_00026B_802C63_001D7D_802C64_00027D_802C67_002C68_802C69_002C6A_802C6B_002C6C_802C6D,
  0x000251_802C6E_000271_802C6F_000250_802C70_000252_802C72_002C73_802C75_002C76_802C7E_802C7F,
  0x00023F_802C80_002C81_802C82_002C83_802C84_002C85_802C86_002C87_802C88_002C89_802C8A_002C8B,
  0x802C8C_002C8D_802C8E_002C8F_802C90_002C91_802C92_002C93_802C94_002C95_802C96_002C97_802C98,
  0x002C99_802C9A_002C9B_802C9C_002C9D_802C9E_002C9F_802CA0_002CA1_802CA2_002CA3_802CA4_002CA5,
  0x802CA6_002CA7_802CA8_002CA9_802CAA_002CAB_802CAC_002CAD_802CAE_002CAF_802CB0_002CB1_802CB2,
  0x002CB3_802CB4_002CB5_802CB6_002CB7_802CB8_002CB9_802CBA_002CBB_802CBC_002CBD_802CBE_002CBF,
  0x802CC0_002CC1_802CC2_002CC3_802CC4_002CC5_802CC6_002CC7_802CC8_002CC9_802CCA_002CCB_802CCC,
  0x002CCD_802CCE_002CCF_802CD0_002CD1_802CD2_002CD3_802CD4_002CD5_802CD6_002CD7_802CD8_002CD9,
  0x802CDA_002CDB_802CDC_002CDD_802CDE_002CDF_802CE0_002CE1_802CE2_002CE3_802CEB_002CEC_802CED,
  0x002CEE_802CF2_002CF3_80A640_00A641_80A642_00A643_80A644_00A645_80A646_00A647_80A648_00A649,
  0x80A64A_00A64B_80A64C_00A64D_80A64E_00A64F_80A650_00A651_80A652_00A653_80A654_00A655_80A656,
  0x00A657_80A658_00A659_80A65A_00A65B_80A65C_00A65D_80A65E_00A65F_80A660_00A661_80A662_00A663,
  0x80A664_00A665_80A666_00A667_80A668_00A669_80A66A_00A66B_80A66C_00A66D_80A680_00A681_80A682,
  0x00A683_80A684_00A685_80A686_00A687_80A688_00A689_80A68A_00A68B_80A68C_00A68D_80A68E_00A68F,
  0x80A690_00A691_80A692_00A693_80A694_00A695_80A696_00A697_80A698_00A699_80A69A_00A69B_80A722,
  0x00A723_80A724_00A725_80A726_00A727_80A728_00A729_80A72A_00A72B_80A72C_00A72D_80A72E_00A72F,
  0x80A732_00A733_80A734_00A735_80A736_00A737_80A738_00A739_80A73A_00A73B_80A73C_00A73D_80A73E,
  0x00A73F_80A740_00A741_80A742_00A743_80A744_00A745_80A746_00A747_80A748_00A749_80A74A_00A74B,
  0x80A74C_00A74D_80A74E_00A74F_80A750_00A751_80A752_00A753_80A754_00A755_80A756_00A757_80A758,
  0x00A759_80A75A_00A75B_80A75C_00A75D_80A75E_00A75F_80A760_00A761_80A762_00A763_80A764_00A765,
  0x80A766_00A767_80A768_00A769_80A76A_00A76B_80A76C_00A76D_80A76E_00A76F_80A779_00A77A_80A77B,
  0x00A77C_80A77D_001D79_80A77E_00A77F_80A780_00A781_80A782_00A783_80A784_00A785_80A786_00A787,
  0x80A78B_00A78C_80A78D_000265_80A790_00A791_80A792_00A793_80A796_00A797_80A798_00A799_80A79A,
  0x00A79B_80A79C_00A79D_80A79E_00A79F_80A7A0_00A7A1_80A7A2_00A7A3_80A7A4_00A7A5_80A7A6_00A7A7,
  0x80A7A8_00A7A9_80A7AA_000266_80A7AB_00025C_80A7AC_000261_80A7AD_00026C_80A7AE_00026A_80A7B0,
  0x00029E_80A7B1_000287_80A7B2_00029D_80A7B3_00AB53_80A7B4_00A7B5_80A7B6_00A7B7_80A7B8_00A7B9,
  0x80A7BA_00A7BB_80A7BC_00A7BD_80A7BE_00A7BF_80A7C0_00A7C1_80A7C2_00A7C3_80A7C4_00A794_80A7C5,
  0x000282_80A7C6_001D8E_80A7C7_00A7C8_80A7C9_00A7CA_80A7CB_000264_80A7CC_00A7CD_80A7CE_00A7CF,
  0x80A7D0_00A7D1_80A7D2_00A7D3_80A7D4_00A7D5_80A7D6_00A7D7_80A7D8_00A7D9_80A7DA_00A7DB_80A7DC,
  0x00019B_80A7F5_00A7F6_80FF21_80FF3A_00FF41_810400_810427_010428_8104B0_8104D3_0104D8_810570,
  0x81057A_010597_81057C_81058A_0105A3_81058C_810592_0105B3_810594_810595_0105BB_810C80_810CB2,
  0x010CC0_810D50_810D65_010D70_8118A0_8118BF_0118C0_816E40_816E5F_016E60_816EA0_816EB8_016EBB,
  0x81E900_81E921_01E922]

end Acrostic.Unicode
